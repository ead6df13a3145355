import ApiDoc.Text.Word

/-!
# Options on the command line

An argument that starts with a dash may be an option. Long options may be cut short as long as it is clear which one is meant, and a value may be attached to an option after an equals sign, or directly to a short one. After two dashes that stand alone, nothing is an option any more.

* `marks` tells what each argument is.
-/

namespace ApiDoc.CommandLine

inductive Flag where
  | help
  | selection
  | output
  deriving DecidableEq, Repr, Inhabited

inductive Command where
  | build
  | dump
  deriving DecidableEq, Repr, Inhabited

/-- Where an argument stands: before the command, or after it. -/
inductive Scope where
  | program
  | command (c : Command)
  deriving DecidableEq, Repr, Inhabited

def Flag.takesValue : Flag → Bool
  | .help => false
  | .selection | .output => true

/-- What an option is called in messages. -/
def Flag.label : Flag → String
  | .help => "-h/--help"
  | .selection => "--comment-selection"
  | .output => "-o/--output"

def Command.word : Command → String
  | .build => "build"
  | .dump => "dump"

def Command.ofWord? (word : String) : Option Command := [Command.build, .dump].find? fun c => c.word == word

def Scope.spellings : Scope → List (String × Flag)
  | .program => [("-h", .help), ("--help", .help), ("--comment-selection", .selection)]
  | .command .build => [("-h", .help), ("--help", .help), ("-o", .output), ("--output", .output)]
  | .command .dump => [("-h", .help), ("--help", .help)]

/-- What an argument is. -/
inductive Mark where
  | plain
  /-- Two dashes that stand alone. -/
  | separator
  /-- It looks like an option, but there is none. -/
  | unknown
  /-- An option, in its long form or not, with text that is attached to it. -/
  | flag (f : Flag) (isLong : Bool) (attached : Option (List Char))
  deriving DecidableEq, Repr, Inhabited

/-- The text after the first equals sign. -/
def afterEquals (arg : List Char) : Option (List Char) :=
  match arg.dropWhile (· != '=') with
  | [] => none
  | _ :: value => some value

def isLongForm (arg : List Char) : Bool := "--".toList.isPrefixOf arg

/-- The options that an argument may mean, with their spellings. -/
def candidates (spellings : List (String × Flag)) (arg : List Char) : List (String × Mark) :=
  spellings.filterMap fun (spelling, f) =>
    if isLongForm arg then
      if (arg.takeWhile (· != '=')).isPrefixOf spelling.toList then
        some (spelling, .flag f true (afterEquals arg))
      else none
    else if spelling.toList == arg.take 2 then some (spelling, .flag f false (some (arg.drop 2)))
    else if arg.isPrefixOf spelling.toList then some (spelling, .flag f (isLongForm spelling.toList) none)
    else none

def isNegativeNumber (arg : List Char) : Bool :=
  match arg with
  | '-' :: cs =>
    match cs.dropWhile Text.isDigit with
    | [] => !cs.isEmpty
    | '.' :: fraction => !fraction.isEmpty && fraction.all Text.isDigit
    | _ => false
  | _ => false

/-- What an argument is that spells no option in full. The spellings are given if several options are meant. -/
def guess (spellings : List (String × Flag)) (arg : List Char) : Except (List String) Mark :=
  match candidates spellings arg with
  | [(_, mark)] => .ok mark
  | [] => if isNegativeNumber arg || arg.contains ' ' then .ok .plain else .ok .unknown
  | several => .error (several.map Prod.fst)

/-- What an argument is before two dashes. -/
def markOf (spellings : List (String × Flag)) (arg : List Char) : Except (List String) Mark :=
  let find (cs : List Char) : Option (String × Flag) := spellings.find? fun s => s.1.toList == cs
  match arg with
  | [] | ['-'] => .ok .plain
  | c :: _ =>
    if c != '-' then .ok .plain
    else match find arg with
      | some (_, f) => .ok (.flag f (isLongForm arg) none)
      | none =>
        match afterEquals arg, find (arg.takeWhile (· != '=')) with
        | some value, some (_, f) => .ok (.flag f (isLongForm arg) (some value))
        | _, _ => guess spellings arg

/-- An argument that may mean several options. -/
structure Ambiguity where
  arg : String
  options : List String
  deriving DecidableEq, Repr, Inhabited

/-- What each argument is. -/
def marks (spellings : List (String × Flag)) : List String → Except Ambiguity (List (String × Mark))
  | [] => .ok []
  | arg :: rest =>
    if arg == "--" then .ok ((arg, .separator) :: rest.map fun a => (a, .plain))
    else match markOf spellings arg.toList with
      | .error options => .error ⟨arg, options⟩
      | .ok mark => (marks spellings rest).map fun ms => (arg, mark) :: ms

end ApiDoc.CommandLine
