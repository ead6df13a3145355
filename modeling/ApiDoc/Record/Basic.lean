import ApiDoc.DocComment.Basic
import ApiDoc.Keyed

/-!
# Documentation records

What is known about the declarations of a source file. A file with classes gives one record per class, under the class's name; a file without gives a single record of its functions.
-/

namespace ApiDoc.Record

open DocComment

/-- Who can use a member. A member whose flags say nothing of it keeps its flags. -/
inductive Visibility where
  | everyone
  | subclasses
  | ownClass
  | unspecified (flags : Int)
  deriving DecidableEq, Repr, Inhabited

/-- A declared parameter, its name without the sigil. -/
structure ParamDoc where
  type : String
  name : String
  default : String
  byRef : Bool
  variadic : Bool
  deriving DecidableEq, Repr, Inhabited

structure PropertyDoc where
  name : String
  type : String
  default : String
  visibility : Visibility
  isStatic : Bool
  rawComment : String
  parsedComment : Option Parsed
  deriving DecidableEq, Repr, Inhabited

structure FunctionDoc where
  name : String
  type : String
  params : List ParamDoc
  rawComment : String
  parsedComment : Option Parsed
  deriving DecidableEq, Repr, Inhabited

structure MethodDoc extends FunctionDoc where
  visibility : Visibility
  isStatic : Bool
  isAbstract : Bool
  isFinal : Bool
  deriving DecidableEq, Repr, Inhabited

structure ClassDoc where
  name : String
  namespaceName : String
  rawComment : String
  parsedComment : Option Parsed
  properties : Keyed PropertyDoc
  methods : Keyed MethodDoc
  deriving DecidableEq, Repr, Inhabited

/-- The functions of a file without classes. -/
structure FunctionFileDoc where
  namespaceName : String
  rawComment : String
  parsedComment : Option Parsed
  functions : Keyed FunctionDoc
  deriving DecidableEq, Repr, Inhabited

/-- A record of the documentation. -/
inductive Declaration where
  | classDoc (c : ClassDoc)
  | functionFile (f : FunctionFileDoc)
  deriving DecidableEq, Repr, Inhabited

/-- The documentation of a source file. -/
abbrev Documentation := Keyed Declaration

/-- The name under which the functions of a file without classes stand. -/
def noClassKey : String := "NOCLASS"

end ApiDoc.Record
