import ApiDoc.Number.DigitLimit

/-!
# Dates and times

Dates, and points in time with an optional offset from universal time, as documents write them: four digits of a year, a month and a day with dashes between, and a time of day after a letter or blanks.

* `Timestamp.read?` reads the parts, and `Timestamp.check` refuses a date or a time that there is not.
* `Timestamp.text` writes a timestamp, and `Timestamp.notate` shows how it is made.
-/

namespace ApiDoc.Yaml

/-- A time of day, with the seconds that its zone is ahead of universal time. -/
structure Clock where
  hour : Nat
  minute : Nat
  second : Nat
  microsecond : Nat
  offset : Option Int
  deriving DecidableEq, Repr, Inhabited

/-- A date, with or without a time of day. -/
structure Timestamp where
  year : Nat
  month : Nat
  day : Nat
  clock : Option Clock
  deriving DecidableEq, Repr, Inhabited

inductive CalendarFault where
  | year
  | month
  | day
  | hour
  | minute
  | second
  | offset (seconds : Int)
  deriving DecidableEq, Repr, Inhabited

/-- Seconds in a day. -/
def daySeconds : Int := 86400

/-- A length of time in the notation that shows its days and seconds. -/
def durationNotation (seconds : Int) : String :=
  let days := seconds.fdiv daySeconds
  let rest := seconds.fmod daySeconds
  let parts := (if days != 0 then ["days=" ++ toString days] else [])
    ++ if rest != 0 then ["seconds=" ++ toString rest] else []
  "datetime.timedelta(" ++ (if parts.isEmpty then "0" else ", ".intercalate parts) ++ ")"

/-- The message for a date or a time that there is not. -/
def CalendarFault.message : CalendarFault → String
  | .year => "year 0 is out of range"
  | .month => "month must be in 1..12"
  | .day => "day is out of range for month"
  | .hour => "hour must be in 0..23"
  | .minute => "minute must be in 0..59"
  | .second => "second must be in 0..59"
  | .offset seconds => "offset must be a timedelta strictly between -timedelta(hours=24) and "
      ++ "timedelta(hours=24), not " ++ durationNotation seconds

namespace Timestamp

/-! ## Reading -/

/-- Reads between `least` and `most` digits. -/
def digits? (least most : Nat) (s : List Char) : Option (List Char × List Char) :=
  let run := (s.takeWhile Char.isDigit).take most
  if run.length < least then none else some (run, s.drop run.length)

def number? (least most : Nat) (s : List Char) : Option (Nat × List Char) :=
  (digits? least most s).map fun (run, rest) => (Number.ofDigits run, rest)

def mark? (c : Char) : List Char → Option (List Char)
  | d :: rest => if c == d then some rest else none
  | [] => none

def isGap (c : Char) : Bool := c == ' ' || c == '\t'

def gap? : List Char → Option (List Char)
  | [] => none
  | c :: rest =>
    if c == 'T' || c == 't' then some rest
    else if isGap c then some (rest.dropWhile isGap) else none

/-- Millionths of a second from the digits after the point; digits after the sixth do not count. -/
def microseconds (s : List Char) : Nat :=
  let run := s.take 6
  Number.ofDigits (run ++ List.replicate (6 - run.length) '0')

/-- Reads an offset, which may be missing. -/
def offset? (s : List Char) : Option (Option Int) :=
  match s with
  | [] => some none
  | _ =>
    match s.dropWhile isGap with
    | ['Z'] => some (some 0)
    | sign :: rest => do
      if sign != '+' && sign != '-' then none
      let (hours, rest) ← number? 1 2 rest
      let minutes ← match rest with
        | [] => some 0
        | ':' :: rest => do
          let (minutes, rest) ← number? 2 2 rest
          if rest.isEmpty then some minutes else none
        | _ => none
      let seconds : Int := hours * 3600 + minutes * 60
      return some (if sign == '-' then -seconds else seconds)
    | [] => none

def clock? (s : List Char) : Option Clock := do
  let (hour, s) ← number? 1 2 s
  let (minute, s) ← number? 2 2 (← mark? ':' s)
  let (second, s) ← number? 2 2 (← mark? ':' s)
  let (fraction, s) := match s with
    | '.' :: rest => (rest.takeWhile Char.isDigit, rest.dropWhile Char.isDigit)
    | _ => ([], s)
  return ⟨hour, minute, second, microseconds fraction, ← offset? s⟩

def read? (s : List Char) : Option Timestamp := do
  let (year, s) ← number? 4 4 s
  let (month, s) ← number? 1 2 (← mark? '-' s)
  let (day, s) ← number? 1 2 (← mark? '-' s)
  match s with
  | [] => return ⟨year, month, day, none⟩
  | _ => return ⟨year, month, day, ← clock? (← gap? s)⟩

/-- Whether a plain word is a timestamp: a date alone needs two digits for its month and two for its day. -/
def isWord (s : List Char) : Bool :=
  match read? s with
  | some t => t.clock.isSome || s.length == 10
  | none => false

/-! ## Checking -/

def isLeap (year : Nat) : Bool := year % 4 == 0 && (year % 100 != 0 || year % 400 == 0)

def monthDays (year month : Nat) : Nat :=
  if month == 2 then if isLeap year then 29 else 28
  else if [4, 6, 9, 11].contains month then 30 else 31

def checkDate (t : Timestamp) : Except CalendarFault Unit :=
  if t.year == 0 then .error .year
  else if t.month == 0 || t.month > 12 then .error .month
  else if t.day == 0 || t.day > monthDays t.year t.month then .error .day
  else .ok ()

def checkClock (c : Clock) : Except CalendarFault Unit :=
  if c.hour > 23 then .error .hour
  else if c.minute > 59 then .error .minute
  else if c.second > 59 then .error .second
  else .ok ()

/-- Checks a timestamp. The offset comes first, then the date. -/
def check (t : Timestamp) : Except CalendarFault Timestamp := do
  if let some c := t.clock then
    if let some seconds := c.offset then
      if seconds.natAbs ≥ daySeconds.toNat then throw (.offset seconds)
  t.checkDate
  if let some c := t.clock then checkClock c
  return t

/-! ## Writing -/

def padded (width n : Nat) : String :=
  let digits := toString n
  String.ofList (List.replicate (width - digits.length) '0') ++ digits

/-- An offset as hours and minutes. -/
def offsetText (seconds : Int) : String :=
  let size := seconds.natAbs
  (if seconds < 0 then "-" else "+") ++ padded 2 (size / 3600) ++ ":" ++ padded 2 (size / 60 % 60)

def clockText (c : Clock) : String :=
  padded 2 c.hour ++ ":" ++ padded 2 c.minute ++ ":" ++ padded 2 c.second
    ++ (if c.microsecond == 0 then "" else "." ++ padded 6 c.microsecond)
    ++ (c.offset.map offsetText).getD ""

def text (t : Timestamp) : String :=
  padded 4 t.year ++ "-" ++ padded 2 t.month ++ "-" ++ padded 2 t.day
    ++ match t.clock with
      | none => ""
      | some c => " " ++ clockText c

/-- The parts of a time of day that its notation shows: seconds and smaller parts only up to the last that is not zero. -/
def clockParts (c : Clock) : List Nat :=
  [c.hour, c.minute]
    ++ (if c.microsecond != 0 then [c.second, c.microsecond] else if c.second != 0 then [c.second] else [])

def zoneNotation (seconds : Int) : String :=
  if seconds == 0 then "tzinfo=datetime.timezone.utc"
  else "tzinfo=datetime.timezone(" ++ durationNotation seconds ++ ")"

def notate (t : Timestamp) : String :=
  let date := [t.year, t.month, t.day]
  match t.clock with
  | none => "datetime.date(" ++ ", ".intercalate (date.map toString) ++ ")"
  | some c => "datetime.datetime("
      ++ ", ".intercalate ((date ++ clockParts c).map toString ++ (c.offset.map zoneNotation).toList) ++ ")"

def kindName (t : Timestamp) : String := if t.clock.isSome then "datetime.datetime" else "datetime.date"

end Timestamp

end ApiDoc.Yaml
