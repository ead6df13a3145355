import ApiDoc.Logging.Session
import ApiDoc.Syntax.Load

/-!
# What the program tells

The messages of the program about its work: what it found in a dump, and what it wrote.
-/

namespace ApiDoc.Logging

def Message.ofNote : Syntax.LoadNote → Message
  | .kept kind =>
    ⟨.text "Keeping %s statement as OtherNode", [.text kind], "Keeping " ++ kind ++ " statement as OtherNode"⟩
  | .loaded count path =>
    ⟨.text "Loaded %d top-level statements from %s", [.int count, .path path],
      "Loaded " ++ toString count ++ " top-level statements from " ++ path⟩

/-- The message for a documentation that was written to a file. -/
def Message.written (count : Nat) (path : String) : Message :=
  ⟨.text "Wrote %d declarations to %s", [.int count, .path path],
    "Wrote " ++ toString count ++ " declarations to " ++ path⟩

namespace Session

/-- Tells what is worth telling about a tree that was loaded. -/
def tellOfTree (t : Syntax.SourceTree) : Step Unit :=
  t.notes.forM fun note => log (fullName loaderName) .debug (.ofNote note)

/-- Tells of a documentation that was written to a file. -/
def tellOfOutput (count : Nat) (path : String) : Step Unit :=
  log (fullName commandName) .info (.written count path)

end Session

end ApiDoc.Logging
