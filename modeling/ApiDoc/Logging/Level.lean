/-!
# Levels

How severe a log record is, as a whole number: the greater, the more severe. Some numbers have names. A logger of level zero has no level of its own.

A truth value can stand where a level belongs. It counts as one or zero, and is shown as what it is.
-/

namespace ApiDoc.Logging

inductive Level where
  | number (n : Int)
  | flag (b : Bool)
  deriving DecidableEq, Repr, Inhabited

/-- The number that a level counts as. -/
def Level.rank : Level → Int
  | .number n => n
  | .flag b => if b then 1 else 0

/-- The levels that have names. A level with two names is listed under the one that is shown first. -/
def levelNames : List (String × Int) :=
  [("CRITICAL", 50), ("FATAL", 50), ("ERROR", 40), ("WARNING", 30), ("WARN", 30), ("INFO", 20), ("DEBUG", 10),
    ("NOTSET", 0)]

def levelOf? (name : String) : Option Level := (levelNames.lookup name).map .number

def Level.display : Level → String
  | .number n => toString n
  | .flag b => if b then "True" else "False"

/-- How a record shows its level. -/
def Level.text (level : Level) : String :=
  match levelNames.find? fun e => e.2 == level.rank with
  | some e => e.1
  | none => "Level " ++ level.display

/-- The level of what has none. -/
def Level.unset : Level := .number 0

/-- The level of a record about the program's inner work. -/
def Level.debug : Level := .number 10

def Level.info : Level := .number 20

/-- The least level of a record that is shown although no handler takes it. -/
def Level.warning : Level := .number 30

end ApiDoc.Logging
