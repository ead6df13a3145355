import ApiDoc.Text.Blank

/-!
# Lines

Text is cut into lines at maximal runs of carriage returns and line feeds, so a doubled line break does not make an empty line. Lists of lines are trimmed of empty lines at either end, and joined again with single line feeds.
-/

namespace ApiDoc.Text

/-- A line of text, which holds no line break when it comes from `lines`. -/
abbrev Line := List Char

def consToFirst (c : Char) : List Line → List Line
  | [] => [[c]]
  | l :: ls => (c :: l) :: ls

/-- The lines of a text of which the character before was a line break exactly when `afterBreak` is set. -/
def linesFrom : (afterBreak : Bool) → List Char → List Line
  | _, [] => [[]]
  | afterBreak, c :: cs =>
    if isBreak c then
      if afterBreak then linesFrom true cs else [] :: linesFrom true cs
    else consToFirst c (linesFrom false cs)

/-- The lines of a text: the pieces between its maximal runs of line breaks. A text that starts or ends with a break has an empty first or last line. -/
def lines (s : List Char) : List Line := linesFrom false s

/-- Joins lines with single line feeds. -/
def unlines (ls : List Line) : List Char := ['\n'].intercalate ls

def trimFront (ls : List Line) : List Line := ls.dropWhile List.isEmpty

def trimBack (ls : List Line) : List Line := (trimFront ls.reverse).reverse

def trim (ls : List Line) : List Line := trimBack (trimFront ls)

/-- The lines between the first and the last one; none when there are fewer than three. -/
def inner (ls : List Line) : List Line := ls.tail.dropLast

end ApiDoc.Text
