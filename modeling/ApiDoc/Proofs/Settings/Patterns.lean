import ApiDoc.Proofs.DocComment.Parse
import ApiDoc.Settings.Basic

/-!
# The patterns of the settings

When the patterns of some settings compile, and what those of the default settings are: the directive `#pw-` and the note `FIXED` before a blank. The default ignored-line pattern matches no line that starts with an at sign.
-/

namespace ApiDoc

open DocComment

structure Settings.PatternsCompile (s : Settings) : Prop where
  ignored : ∃ is, compileAll s.ignoredLinePatterns = .ok is
  notes : ∃ ns, compileAll s.droppedNotePatterns = .ok ns

namespace Pattern

def exactly (c : Char) : Regex := .oneOf ⟨false, false⟩ false [.code c.toNat]

def oneBlank : Regex := .oneOf ⟨false, false⟩ false [.category .space false]

/-- What comes after any blanks at the start of a text. -/
def afterBlanks (rs : List Regex) : Regex := Regex.ofList (.anchor .textStart :: .repeated .greedy 0 none oneBlank :: rs)

/-- The expression of the default ignored-line pattern. -/
def directive : Regex := afterBlanks [exactly '#', exactly 'p', exactly 'w', exactly '-']

/-- The expression of the default note pattern. -/
def fixedNote : Regex :=
  afterBlanks [exactly 'F', exactly 'I', exactly 'X', exactly 'E', exactly 'D', oneBlank]

theorem compileAll_directive : compileAll ["#pw-"] = .ok [directive] := by decide +kernel

theorem compileAll_fixedNote : compileAll ["FIXED\\s"] = .ok [fixedNote] := by decide +kernel

theorem reach_seq (text : Array Char) (a b : Regex) (starts : List Nat) :
    (Regex.seq a b).reach text starts = b.reach text (a.reach text starts) := by
  rw [Regex.reach]

theorem reach_blanks_of_solid {text : Array Char} (h : passes text Text.isBlank 0 = false) :
    (Regex.repeated .greedy 0 none oneBlank).reach text [0] = [0] := by
  have htest : (fun c => holdsCharacter ⟨false, false⟩ [.category .space false] c != false) = Text.isBlank := by
    funext c
    simp [holdsCharacter, SetItem.covers, Category.holds]
  simp only [Regex.reach, oneBlank, Regex.test?, htest, List.foldl_cons, List.foldl_nil]
  simp [addRun, runEnd, extraRounds, h, addDown, Places.add, Places.empty, Places.toList]

theorem matchesAny_directive_at (rest : List Char) : matchesAny [directive] ('@' :: rest) = false := by
  have hat : Text.isBlank '@' = false := by decide
  have hsolid : passes ('@' :: rest).toArray Text.isBlank 0 = false := by simp [passes, hat]
  have hsharp : (exactly '#').reach ('@' :: rest).toArray [0] = [] := by
    simp [exactly, Regex.reach, passes, holdsCharacter, SetMode.isCode]
  have hasks : directive.asksGroups = false := by decide
  have hstart : (Regex.anchor .textStart).reach ('@' :: rest).toArray [0] = [0] := by
    simp [Regex.reach, Anchor.holds]
  have hreach : directive.reach ('@' :: rest).toArray [0] = [] := by
    simp only [directive, afterBlanks, Regex.ofList, reach_seq, hstart, reach_blanks_of_solid hsolid, hsharp]
    simp [exactly, Regex.reach]
  simp [matchesAny, Regex.matchesStart, hasks, hreach]

end Pattern

theorem patternsCompile_default : Settings.default.PatternsCompile :=
  ⟨⟨_, Pattern.compileAll_directive⟩, ⟨_, Pattern.compileAll_fixedNote⟩⟩

end ApiDoc
