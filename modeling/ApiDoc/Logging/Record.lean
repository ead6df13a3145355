import ApiDoc.Logging.Level
import ApiDoc.Template.Value

/-!
# Log records

What happened: through which logger, how severe it is, what it says, and when it was. A record keeps the text that its message is made from, and the values that were put into it.

* `LogRecord.values` are the values that the template of a log line can name.
-/

namespace ApiDoc.Logging

structure Stamp where
  year : Nat
  month : Nat
  day : Nat
  hour : Nat
  minute : Nat
  second : Nat
  millisecond : Nat
  deriving DecidableEq, Repr, Inhabited

structure LogRecord where
  logger : String
  level : Level
  /-- What the message is made from. -/
  template : Template.Value
  /-- The values that were put into the message. -/
  arguments : List Template.Value
  message : String
  stamp : Stamp
  deriving Inhabited

/-- What a program tells: the text of a message, the values put into it, and the message itself. -/
structure Message where
  template : Template.Value
  arguments : List Template.Value
  text : String
  deriving Inhabited

def Message.plain (text : String) : Message := ⟨.text text, [], text⟩

/-- A number with at least some digits. -/
def padded (width n : Nat) : List Char :=
  let digits := (toString n).toList
  List.replicate (width - digits.length) '0' ++ digits

/-- What a letter after a percent sign stands for in a time; there is nothing for some letters. -/
def Stamp.part? (t : Stamp) (letter : Char) : Option (List Char) :=
  match letter with
  | 'Y' => some (padded 4 t.year)
  | 'm' => some (padded 2 t.month)
  | 'd' => some (padded 2 t.day)
  | 'H' => some (padded 2 t.hour)
  | 'M' => some (padded 2 t.minute)
  | 'S' => some (padded 2 t.second)
  | 'F' => some (padded 4 t.year ++ '-' :: padded 2 t.month ++ '-' :: padded 2 t.day)
  | 'T' => some (padded 2 t.hour ++ ':' :: padded 2 t.minute ++ ':' :: padded 2 t.second)
  | 'R' => some (padded 2 t.hour ++ ':' :: padded 2 t.minute)
  | 'n' => some ['\n']
  | 't' => some ['\t']
  | '%' => some ['%']
  | _ => none

/-- Writes a time after a template with letters after percent signs. -/
def Stamp.format (t : Stamp) : List Char → List Char
  | '%' :: c :: cs => (t.part? c).getD ['%', c] ++ t.format cs
  | c :: cs => c :: t.format cs
  | [] => []

/-- The values of a record that templates can name; its time is one of them only if it is given. -/
def LogRecord.values (r : LogRecord) (time : Option (List Char)) : Template.Values :=
  let level : Template.Value := match r.level with
    | .number n => .int n
    | .flag b => .flag b
  let time : Template.Values := match time with
    | some text => [("asctime", .text (String.ofList text))]
    | none => []
  [("name", .text r.logger), ("msg", r.template), ("args", .row r.arguments), ("levelname", .text r.level.text),
    ("levelno", level), ("exc_info", .nothing), ("exc_text", .nothing), ("stack_info", .nothing),
    ("msecs", .float (.ofInt r.stamp.millisecond)), ("threadName", .text "MainThread"),
    ("processName", .text "MainProcess"), ("message", .text r.message)] ++ time

end ApiDoc.Logging
