import ApiDoc.Keyed
import ApiDoc.Text.Blank

/-!
# Environment files

An environment file assigns values to names, one statement per line: a name, an equals sign and a value, which may stand between quotes. Lines that start with a number sign are comments, and so is the rest of a line after a blank and a number sign. A name without a value takes back what was assigned to it. A statement that cannot be read is skipped.

A value may refer to other names, as a dollar sign and the name in braces, with an optional default.

* `parse` gives the assignments of a file, and `faults` the lines of the statements that cannot be read.
-/

namespace ApiDoc.EnvFile

open Text

/-- A blank that does not end a line. -/
def isInlineBlank (c : Char) : Bool := isBlank c && !isBreak c

/-- What a statement assigns: a name, if it has one, and a value, if it gives one. -/
structure Binding where
  name : Option (List Char)
  value : Option (List Char)
  deriving DecidableEq, Repr, Inhabited

/-- Skips the word that exports a name, together with the blanks after it. -/
def skipExport (s : List Char) : List Char :=
  let word := "export".toList
  if word.isPrefixOf s then
    match s.drop word.length with
    | c :: rest => if isInlineBlank c then rest.dropWhile isInlineBlank else s
    | [] => s
  else s

/-- Reads a name: between apostrophes, or up to a blank, an equals sign or a number sign. A comment has none. The outer value is missing when no name can be read. -/
def readName (s : List Char) : Option (Option (List Char) × List Char) :=
  match s with
  | '#' :: _ => some (none, s)
  | '\'' :: rest =>
    match rest.span (· != '\'') with
    | (c :: name, _ :: rest) => some (some (c :: name), rest)
    | _ => none
  | _ =>
    match s.span fun c => c != '=' && c != '#' && !isBlank c with
    | ([], _) => none
    | (name, rest) => some (some name, rest)

/-- Reads up to a quote that no backslash escapes, keeping escapes as they are. A backslash escapes any character of its line. -/
def untilQuote (quote : Char) : List Char → Option (List Char × List Char)
  | [] => none
  | [c] => if c == quote then some ([], []) else none
  | c :: d :: rest =>
    if c == quote then some ([], d :: rest)
    else if c == '\\' then
      if d == '\n' then none else (untilQuote quote rest).map fun (text, after) => (c :: d :: text, after)
    else (untilQuote quote (d :: rest)).map fun (text, after) => (c :: text, after)

/-- What an escape between double quotes stands for. -/
def doubleEscapes : List (Char × Char) :=
  [('\\', '\\'), ('\'', '\''), ('"', '"'), ('a', '\x07'), ('b', '\x08'), ('f', '\x0c'), ('n', '\n'), ('r', '\r'),
    ('t', '\t'), ('v', '\x0b')]

def singleEscapes : List (Char × Char) := [('\\', '\\'), ('\'', '\'')]

/-- Replaces escapes; a backslash before any other character stays. -/
def unescape (escapes : List (Char × Char)) : List Char → List Char
  | '\\' :: c :: rest =>
    match escapes.lookup c with
    | some d => d :: unescape escapes rest
    | none => '\\' :: unescape escapes (c :: rest)
  | c :: rest => c :: unescape escapes rest
  | [] => []

/-- The part of a line before a comment, which starts with blanks and a number sign. -/
def beforeComment : List Char → List Char
  | [] => []
  | c :: rest =>
    if isBlank c && (rest.dropWhile isBlank).head? == some '#' then [] else c :: beforeComment rest

def dropBlanksBack (s : List Char) : List Char := (dropBlanks s.reverse).reverse

/-- Reads a value after the equals sign. A comment after blanks leaves it empty. -/
def readValue (s : List Char) : Option (List Char × List Char) :=
  let body := s.dropWhile isInlineBlank
  match body with
  | '\'' :: rest => (untilQuote '\'' rest).map fun (text, after) => (unescape singleEscapes text, after)
  | '"' :: rest => (untilQuote '"' rest).map fun (text, after) => (unescape doubleEscapes text, after)
  | '#' :: _ => if body.length < s.length then some ([], body) else unquoted body
  | _ => unquoted body
where
  /-- Reads a value without quotes. -/
  unquoted (s : List Char) : Option (List Char × List Char) :=
    let (line, rest) := s.span fun c => !isBreak c
    some (dropBlanksBack (beforeComment line), rest)

/-- Skips a comment with the blanks before it. -/
def skipComment (s : List Char) : List Char :=
  match s.dropWhile isInlineBlank with
  | '#' :: rest => rest.dropWhile fun c => !isBreak c
  | _ => s

def skipBreak : List Char → List Char
  | '\r' :: '\n' :: rest => rest
  | '\r' :: rest => rest
  | '\n' :: rest => rest
  | rest => rest

/-- Takes the end of a line, which has to follow after any blanks. -/
def endOfLine? (s : List Char) : Option (List Char) :=
  match s.dropWhile isInlineBlank with
  | [] => some []
  | c :: rest => if isBreak c then some (skipBreak (c :: rest)) else none

/-- Skips the rest of a line that cannot be read. -/
def skipLine (s : List Char) : List Char :=
  match s.dropWhile fun c => !isBreak c with
  | _ :: rest => rest
  | [] => []

/-- Ends a statement, or skips its line when more follows. -/
def finish (binding : Binding) (s : List Char) : Option Binding × List Char :=
  match endOfLine? (skipComment s) with
  | some rest => (some binding, rest)
  | none => (none, skipLine (skipComment s))

/-- Reads a statement from a text that does not start with a blank; there is none if it cannot be read. -/
def readBinding (s : List Char) : Option Binding × List Char :=
  let s := skipExport s
  match readName s with
  | none => (none, skipLine s)
  | some (name, rest) =>
    match rest.dropWhile isInlineBlank with
    | '=' :: rest =>
      match readValue rest with
      | some (value, rest) => finish ⟨name, some value⟩ rest
      | none => (none, skipLine rest)
    | rest => finish ⟨name, none⟩ rest

/-- A statement, or that there is none, and the line that it starts in. Blank lines before it belong to it. -/
structure Statement where
  line : Nat
  binding : Option Binding
  deriving DecidableEq, Repr, Inhabited

/-- Reads at most a number of statements, the first of which starts in a line. -/
def readStatements : Nat → Nat → List Char → List Statement
  | 0, _, _ => []
  | fuel + 1, line, s =>
    match dropBlanks s with
    | [] => []
    | rest =>
      let (binding, after) := readBinding rest
      let taken := s.take (s.length - after.length)
      ⟨line, binding⟩ :: readStatements fuel (line + taken.count '\n') after

/-- The text without a mark of its encoding in front. -/
def withoutMark : List Char → List Char
  | '\uFEFF' :: rest => rest
  | s => s

def statements (text : List Char) : List Statement :=
  let text := withoutMark text
  readStatements (text.length + 1) 1 text

/-- The lines in which statements start that cannot be read. -/
def faults (text : List Char) : List Nat :=
  ((statements text).filter fun s => s.binding.isNone).map (·.line)

/-- The name and the default of a reference at the front of a text, after its opening brace. -/
def reference? (s : List Char) : Option ((List Char × List Char) × List Char) :=
  let (name, rest) := s.span fun c => c != '\x7d' && c != ':'
  match rest with
  | '\x7d' :: rest => some ((name, []), rest)
  | ':' :: '-' :: rest =>
    match rest.span (· != '\x7d') with
    | (fallback, _ :: rest) => some ((name, fallback), rest)
    | _ => none
  | _ => none

/-- What names stand for. A name that is known may have no value. -/
abbrev Assignments := Keyed (Option String)

/-- Replaces references by the values of the names, at most a number of steps. -/
def expand (value? : String → Option (Option String)) : Nat → List Char → List Char
  | 0, s => s
  | _ + 1, [] => []
  | fuel + 1, '$' :: '\x7b' :: s =>
    match reference? s with
    | some ((name, fallback), rest) =>
      let text := match value? (String.ofList name) with
        | some value => (value.getD "").toList
        | none => fallback
      text ++ expand value? fuel rest
    | none => '$' :: expand value? fuel ('\x7b' :: s)
  | fuel + 1, c :: rest => c :: expand value? fuel rest

/-- Takes a statement. References in a value are to the names before it, and then to the environment. -/
def assign (environment : List (String × String)) (done : Assignments) (b : Binding) : Assignments :=
  match b.name with
  | none => done
  | some name =>
    let value? (name : String) : Option (Option String) :=
      done.get? name <|> (environment.reverse.lookup name).map some
    done.put (String.ofList name)
      (b.value.map fun value => String.ofList (expand value? (value.length + 1) value))

/-- The assignments of a file. A name has the place of its first statement and the value of its last. -/
def parse (environment : List (String × String)) (text : List Char) : Assignments :=
  ((statements text).filterMap (·.binding)).foldl (assign environment) []

end ApiDoc.EnvFile
