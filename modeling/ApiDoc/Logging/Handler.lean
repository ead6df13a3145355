import ApiDoc.Logging.Layout

/-!
# Handlers

A handler takes the records of loggers, of some level at least and as far as its filters let them through. It writes them to one of the two outputs or to a file, keeps them for later, or does nothing with them.

* `Filter.accepts` and `Threshold.isReached` decide what a handler takes. What was set up wrongly shows only there.
-/

namespace ApiDoc.Logging

inductive Sink where
  | stdout
  | stderr
  deriving DecidableEq, Repr, Inhabited

/-- What is written, piece by piece. -/
abbrev Output := List (Sink × String)

inductive EmitError where
  /-- A handler does not say what it does with records. -/
  | unimplemented
  /-- Where a text was needed, there is something else. -/
  | notAText (kind : String)
  /-- Numbers cannot be compared with this. -/
  | incomparable (kind : String)
  /-- Records were to be passed on to what is no handler. -/
  | notAHandler (kind : String)
  deriving DecidableEq, Repr, Inhabited

def EmitError.message : EmitError → String
  | .unimplemented => "emit must be implemented by Handler subclasses"
  | .notAText kind => "must be str, not " ++ kind
  | .incomparable kind => "'>=' not supported between instances of 'int' and '" ++ kind ++ "'"
  | .notAHandler kind => "'" ++ kind ++ "' object has no attribute 'handle'"

/-- Whether a name lies below another one. -/
def isBelow (above name : String) : Bool := (above ++ ".").toList.isPrefixOf name.toList

/-- What lets records through by the names of their loggers. -/
inductive Filter where
  /-- A name and all names below it; the empty name lets everything through. -/
  | below (name : String)
  /-- What was given is no name. -/
  | unusable (kind : String)
  deriving DecidableEq, Repr, Inhabited

/-- Whether a filter lets the records of a logger through. -/
def Filter.accepts (f : Filter) (logger : String) : Except EmitError Bool :=
  match f with
  | .below name => .ok (name.isEmpty || name == logger || isBelow name logger)
  | .unusable kind => .error (.notAText kind)

/-- Whether all filters let the records of a logger through. -/
def acceptedByAll (logger : String) : List Filter → Except EmitError Bool
  | [] => .ok true
  | f :: rest => do if ← f.accepts logger then acceptedByAll logger rest else return false

/-- A number that has to be reached. -/
inductive Threshold where
  | atLeast (n : Int)
  | never
  /-- What was given is no number. -/
  | unusable (kind : String)
  deriving DecidableEq, Repr, Inhabited

def Threshold.isReached (t : Threshold) (n : Int) : Except EmitError Bool :=
  match t with
  | .atLeast least => .ok (n ≥ least)
  | .never => .ok false
  | .unusable kind => .error (.incomparable kind)

inductive Encoding where
  | utf8
  | latin1
  | ascii
  /-- There is no such encoding. -/
  | unknown
  deriving DecidableEq, Repr, Inhabited

/-- The bytes of a text; some encodings lack some characters. -/
def Encoding.encode? (e : Encoding) (s : String) : Option (List UInt8) :=
  let limited (bound : Nat) : Option (List UInt8) :=
    if s.toList.all fun c => c.toNat < bound then some (s.toList.map fun c => c.toNat.toUInt8) else none
  match e with
  | .utf8 => some s.toUTF8.toList
  | .latin1 => limited 0x100
  | .ascii => limited 0x80
  | .unknown => none

inductive OpenMode where
  | append
  | truncate
  | create
  | read
  deriving DecidableEq, Repr, Inhabited

/-- When a file is put aside: its size is limited, and so is the number of old files. -/
structure Rotation where
  size : Nat
  backups : Nat
  deriving DecidableEq, Repr, Inhabited

structure LogFile where
  path : String
  mode : OpenMode
  /-- Whether it takes text. -/
  takesText : Bool
  encoding : Encoding
  rotation : Option Rotation
  /-- Whether it is opened only when there is a record. -/
  isLazy : Bool
  isOpen : Bool
  wasClosed : Bool
  deriving DecidableEq, Repr, Inhabited

/-- Where the records that were kept go. -/
inductive Target where
  | nothing
  | handler (id : Nat)
  /-- What was given is no handler. -/
  | unusable (kind : String)
  deriving DecidableEq, Repr, Inhabited

/-- Records that are kept until there are enough of them or a severe one comes. -/
structure Buffer where
  capacity : Threshold
  /-- The level of a severe record, for a buffer that passes records on. -/
  severe : Option Threshold
  target : Target
  records : List LogRecord
  deriving Inhabited

/-- What a handler does with records. -/
inductive Outlet where
  | stream (sink : Sink)
  | file (f : LogFile)
  | buffer (b : Buffer)
  | nowhere
  /-- It does not say what it does. -/
  | unimplemented
  deriving Inhabited

/-- What takes the records of loggers. -/
structure Handler where
  /-- The least level of the records it takes. -/
  level : Threshold
  layout : Layout
  filters : List Filter
  /-- What ends a line; without it nothing can be written. -/
  terminator : Option String
  outlet : Outlet
  deriving Inhabited

end ApiDoc.Logging
