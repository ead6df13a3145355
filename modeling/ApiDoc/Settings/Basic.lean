/-!
# Settings

The choices a user can make: which attached comment documents a declaration, which comment lines are left out, and how the program logs.
-/

namespace ApiDoc

/-- Which of several attached comments documents a declaration. -/
inductive CommentSelection where
  | first
  | last
  deriving DecidableEq, Repr, Inhabited

/-- The levels of the package loggers that settings can choose. -/
inductive LogLevel where
  | debug
  | info
  | warning
  | error
  | critical
  deriving DecidableEq, Repr, Inhabited

structure Settings where
  /-- Which attached comment counts. -/
  commentSelection : CommentSelection
  /-- Patterns of comment lines that are removed before the summary is taken. -/
  ignoredLinePatterns : List String
  /-- Patterns of lines that are removed from the description while tags are extracted. -/
  droppedNotePatterns : List String
  /-- The level of the package loggers. -/
  logLevel : LogLevel
  /-- The path of a logging configuration. -/
  loggingConfig : Option String
  deriving DecidableEq, Repr, Inhabited

def Settings.default : Settings :=
  { commentSelection := .last
    ignoredLinePatterns := ["#pw-"]
    droppedNotePatterns := ["FIXED\\s"]
    logLevel := .info
    loggingConfig := none }

def CommentSelection.word : CommentSelection → String
  | .first => "first"
  | .last => "last"

def LogLevel.word : LogLevel → String
  | .debug => "DEBUG"
  | .info => "INFO"
  | .warning => "WARNING"
  | .error => "ERROR"
  | .critical => "CRITICAL"

end ApiDoc
