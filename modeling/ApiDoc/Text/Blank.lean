/-!
# Blank characters

Which characters count as blank space in comment text, and the two that end a line. The class is Unicode's: the ASCII controls that act as space, the no-break and wide spaces, and the line and paragraph separators.
-/

namespace ApiDoc.Text

/-- Blank characters: everything a reader sees as empty space, including the two characters that end a line. -/
def isBlank (c : Char) : Bool :=
  let n := c.toNat
  (9 ≤ n && n ≤ 13) || (28 ≤ n && n ≤ 32) || n == 0x85 || n == 0xA0 || n == 0x1680
    || (0x2000 ≤ n && n ≤ 0x200A) || n == 0x2028 || n == 0x2029 || n == 0x202F || n == 0x205F
    || n == 0x3000

/-- Carriage return and line feed, the only characters that end a line. -/
def isBreak (c : Char) : Bool := c == '\r' || c == '\n'

theorem isBlank_of_isBreak {c : Char} (h : isBreak c = true) : isBlank c = true := by
  simp only [isBreak, Bool.or_eq_true, beq_iff_eq] at h
  rcases h with rfl | rfl <;> decide

def dropBlanks (s : List Char) : List Char := s.dropWhile isBlank

/-- The blanks at the start of the text and what follows them. -/
def spanBlanks (s : List Char) : List Char × List Char := s.span isBlank

/-- The word at the start of the text, up to the first blank, and what follows it. -/
def spanWord (s : List Char) : List Char × List Char := s.span fun c => !isBlank c

end ApiDoc.Text
