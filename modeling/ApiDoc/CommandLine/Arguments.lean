import ApiDoc.CommandLine.Flag
import ApiDoc.Settings.Basic
import ApiDoc.Text.Quoted

/-!
# The arguments of a run

What a run of the program is asked to do. The arguments are read from left to right: options of the program, then a command, and all that follows belongs to the command. An option that asks for help stops the reading at once, and so does the first fault.

* `Invocation.parse` reads arguments.
-/

namespace ApiDoc.CommandLine

inductive UsageError where
  | ambiguous (a : Ambiguity)
  | missingValue (f : Flag)
  | unwantedValue (f : Flag) (value : String)
  | unknownSelection (word : String)
  | unknownCommand (word : String)
  | missingSource
  | unrecognized (args : List String)
  deriving DecidableEq, Repr, Inhabited

def UsageError.message : UsageError → String
  | .ambiguous a => "ambiguous option: " ++ a.arg ++ " could match " ++ ", ".intercalate a.options
  | .missingValue f => "argument " ++ f.label ++ ": expected one argument"
  | .unwantedValue f value => "argument " ++ f.label ++ ": ignored explicit argument " ++ Text.quotedString value
  | .unknownSelection word =>
    "argument --comment-selection: invalid choice: " ++ Text.quotedString word ++ " (choose from 'first', 'last')"
  | .unknownCommand word =>
    "argument command: invalid choice: " ++ Text.quotedString word ++ " (choose from 'build', 'dump')"
  | .missingSource => "the following arguments are required: source"
  | .unrecognized args => "unrecognized arguments: " ++ " ".intercalate args

/-- Why the program does not go on after reading its arguments. -/
inductive Stop where
  | help (scope : Scope)
  | usage (scope : Scope) (e : UsageError)
  deriving DecidableEq, Repr, Inhabited

/-- Where a documentation goes. -/
inductive Destination where
  | stdout
  | file (path : String)
  /-- Two dashes were given for it, which stand for nothing at all. -/
  | void
  deriving DecidableEq, Repr, Inhabited

inductive Action where
  | build (source : String) (output : Destination)
  | dump (source : String)
  deriving DecidableEq, Repr, Inhabited

/-- What a run is asked to do: with which choice of comments, and which command. -/
structure Invocation where
  selection : Option CommentSelection
  action : Option Action
  deriving DecidableEq, Repr, Inhabited

/-! ## Options written together -/

/-- The value of an option. Two dashes that are attached to it stand for nothing at all. -/
inductive FlagValue where
  | absent
  | text (s : String)
  | void
  deriving DecidableEq, Repr, Inhabited

def FlagValue.attached (text : List Char) : FlagValue :=
  if text == ['-', '-'] then .void else .text (String.ofList text)

/-- What an argument with options gives: the options with their values, and whether the next argument was a value. -/
structure Uses where
  flags : List (Flag × FlagValue)
  tookNext : Bool
  deriving Repr, Inhabited

/-- Reads an option to which nothing is attached. -/
def readAlone (next : Option String) (f : Flag) : Except UsageError Uses :=
  if !f.takesValue then .ok ⟨[(f, .absent)], false⟩
  else match next with
    | some value => .ok ⟨[(f, .text value)], true⟩
    | none => .error (.missingValue f)

/-- Reads an option with text attached to it: its value, or more short options. -/
def readAttached (scope : Scope) (next : Option String) (f : Flag) (isLong : Bool) (text : List Char) :
    Except UsageError Uses :=
  if f.takesValue then .ok ⟨[(f, .attached text)], false⟩
  else if isLong then .error (.unwantedValue f (String.ofList text))
  else match text with
    | [] => .error (.unwantedValue f "")
    | c :: rest =>
      match scope.spellings.lookup (String.ofList ['-', c]) with
      | none => .error (.unwantedValue f (String.ofList text))
      | some g => do
        let uses ← match rest with
          | [] => readAlone next g
          | _ :: _ => readAttached scope next g false rest
        return { uses with flags := (f, .absent) :: uses.flags }

/-- Reads an argument with options. -/
def readFlag (scope : Scope) (next : Option String) (f : Flag) (isLong : Bool) :
    Option (List Char) → Except UsageError Uses
  | none => readAlone next f
  | some text => readAttached scope next f isLong text

def nextPlain : List (String × Mark) → Option String
  | (arg, .plain) :: _ => some arg
  | _ => none

/-- Whether two dashes that stand alone come next. -/
def startsWithSeparator : List (String × Mark) → Bool
  | (_, .separator) :: _ => true
  | _ => false

def selectionOf? (word : String) : Option CommentSelection :=
  [CommentSelection.first, .last].find? fun c => c.word == word

/-- What an argument is among those of a scope; a fault stops the reading. -/
def marksIn (scope : Scope) (args : List String) : Except Stop (List (String × Mark)) :=
  (marks scope.spellings args).mapError fun a => .usage scope (.ambiguous a)

/-! ## Arguments of a command -/

/-- The arguments of a command that were read: the source, the output, and what belongs to nothing. -/
structure CommandArgs where
  source : Option String
  output : Destination
  extras : List String
  deriving DecidableEq, Repr, Inhabited

def CommandArgs.use (c : Command) (a : CommandArgs) : List (Flag × FlagValue) → Except Stop CommandArgs
  | [] => .ok a
  | (.output, .text path) :: rest => { a with output := .file path }.use c rest
  | (.output, _) :: rest => { a with output := .void }.use c rest
  | _ :: _ => .error (.help (.command c))

/-- Reads the arguments of a command, of which the first is left out if `skip` is set. -/
def CommandArgs.read (c : Command) (a : CommandArgs) (skip : Bool) : List (String × Mark) → Except Stop CommandArgs
  | [] => .ok a
  | (arg, mark) :: rest =>
    if skip then a.read c false rest
    else match mark with
      | .unknown => { a with extras := a.extras ++ [arg] }.read c false rest
      | .flag f isLong attached => do
        let uses ← (readFlag (.command c) (nextPlain rest) f isLong attached).mapError (.usage (.command c))
        (← a.use c uses.flags).read c uses.tookNext rest
      | .plain =>
        if a.source.isSome then { a with extras := a.extras ++ [arg] }.read c false rest
        -- two dashes right after the source are dropped
        else { a with source := some arg }.read c (startsWithSeparator rest) rest
      | .separator =>
        match a.source, rest with
        | none, (source, _) :: _ => { a with source := some source }.read c true rest
        | _, _ => { a with extras := a.extras ++ [arg] }.read c false rest

/-- What a command is to do, by its arguments. -/
def CommandArgs.action (a : CommandArgs) (c : Command) : Except Stop Action :=
  match a.source, c with
  | none, _ => .error (.usage (.command c) .missingSource)
  | some source, .build => .ok (.build source a.output)
  | some source, .dump => .ok (.dump source)

/-! ## Arguments of the program -/

/-- The options of the program that were read, and what belongs to nothing. -/
structure ProgramArgs where
  selection : Option CommentSelection
  extras : List String
  deriving DecidableEq, Repr, Inhabited

def ProgramArgs.use (a : ProgramArgs) : List (Flag × FlagValue) → Except Stop ProgramArgs
  | [] => .ok a
  | (.selection, .text word) :: rest =>
    match selectionOf? word with
    | some selection => { a with selection := some selection }.use rest
    | none => .error (.usage .program (.unknownSelection word))
  | (.selection, _) :: rest => { a with selection := none }.use rest
  | _ :: _ => .error (.help .program)

/-- Ends the reading: nothing may be left that belongs to nothing. -/
def ProgramArgs.finish (a : ProgramArgs) (action : Option Action) : Except Stop Invocation :=
  if a.extras.isEmpty then .ok ⟨a.selection, action⟩ else .error (.usage .program (.unrecognized a.extras))

def ProgramArgs.command (a : ProgramArgs) (word : String) (args : List String) : Except Stop Invocation := do
  let some c := Command.ofWord? word | throw (.usage .program (.unknownCommand word))
  let read ← CommandArgs.read c ⟨none, .stdout, []⟩ false (← marksIn (.command c) args)
  let action ← read.action c
  { a with extras := a.extras ++ read.extras }.finish (some action)

/-- Reads the arguments of the program, of which the first is left out if `skip` is set. -/
def ProgramArgs.read (a : ProgramArgs) (skip : Bool) : List (String × Mark) → Except Stop Invocation
  | [] => a.finish none
  | (arg, mark) :: rest =>
    if skip then a.read false rest
    else match mark with
      | .unknown => { a with extras := a.extras ++ [arg] }.read false rest
      | .flag f isLong attached => do
        let uses ← (readFlag .program (nextPlain rest) f isLong attached).mapError (.usage .program)
        (← a.use uses.flags).read uses.tookNext rest
      | .plain => a.command arg (rest.map Prod.fst)
      | .separator =>
        if rest.isEmpty then { a with extras := a.extras ++ [arg] }.finish none
        else a.command arg (rest.map Prod.fst)

def Invocation.parse (args : List String) : Except Stop Invocation := do
  ProgramArgs.read ⟨none, []⟩ false (← marksIn .program args)

end ApiDoc.CommandLine
