import ApiDoc.Text.Quoted
import ApiDoc.Number.DigitLimit

/-!
# Faults in patterns

What can be wrong with a written pattern, and the words for it. A fault names the place in the written text where one exists.
-/

namespace ApiDoc.Pattern

/-- What is wrong with a pattern. Pieces of the pattern appear as they were written. -/
inductive Fault where
  | escapeAtEnd
  | badEscape (escape : String)
  | incompleteEscape (escape : String)
  | octalRange (escape : String)
  | missingBrace
  | undefinedCharacterName (name : String)
  | openGroupReference
  | sameLookBehindReference
  | unknownGroupNumber (n : Nat)
  | groupNumberZero
  | unknownGroupName (name : String)
  | groupNameCharacter (name : String)
  | groupNameTwice (name : String) (again first : Nat)
  | missingName (what : String)
  | unterminatedName (terminator : String)
  | unterminatedSet
  | badRange (lo hi : String)
  | nothingToRepeat
  | multipleRepeat
  | repeatBounds
  | unterminatedGroup
  | unterminatedComment
  | unexpectedEnd
  | unknownExtension (text : String)
  | conditionBranches
  | globalFlagsLate
  | unbalanced
  | localeFlag
  | incompatibleFlags
  | globalFlagOn
  | globalFlagOff
  | typeFlagOff
  | flagOnAndOff
  | unknownFlag
  | missingFlagEnd
  | missingFlag
  | missingColon
  deriving DecidableEq, Repr, Inhabited

def Fault.text : Fault → String
  | .escapeAtEnd => "bad escape (end of pattern)"
  | .badEscape e => "bad escape " ++ e
  | .incompleteEscape e => "incomplete escape " ++ e
  | .octalRange e => "octal escape value " ++ e ++ " outside of range 0-0o377"
  | .missingBrace => "missing \x7b"
  | .undefinedCharacterName n => "undefined character name " ++ Text.quotedString n
  | .openGroupReference => "cannot refer to an open group"
  | .sameLookBehindReference => "cannot refer to group defined in the same lookbehind subpattern"
  | .unknownGroupNumber n => "invalid group reference " ++ toString n
  | .groupNumberZero => "bad group number"
  | .unknownGroupName n => "unknown group name " ++ Text.quotedString n
  | .groupNameCharacter n => "bad character in group name " ++ Text.quotedString n
  | .groupNameTwice n again first =>
    "redefinition of group name " ++ Text.quotedString n ++ " as group " ++ toString again ++ "; was group "
      ++ toString first
  | .missingName what => "missing " ++ what
  | .unterminatedName t => "missing " ++ t ++ ", unterminated name"
  | .unterminatedSet => "unterminated character set"
  | .badRange lo hi => "bad character range " ++ lo ++ "-" ++ hi
  | .nothingToRepeat => "nothing to repeat"
  | .multipleRepeat => "multiple repeat"
  | .repeatBounds => "min repeat greater than max repeat"
  | .unterminatedGroup => "missing ), unterminated subpattern"
  | .unterminatedComment => "missing ), unterminated comment"
  | .unexpectedEnd => "unexpected end of pattern"
  | .unknownExtension t => "unknown extension ?" ++ t
  | .conditionBranches => "conditional backref with more than two branches"
  | .globalFlagsLate => "global flags not at the start of the expression"
  | .unbalanced => "unbalanced parenthesis"
  | .localeFlag => "bad inline flags: cannot use 'L' flag with a str pattern"
  | .incompatibleFlags => "bad inline flags: flags 'a', 'u' and 'L' are incompatible"
  | .globalFlagOn => "bad inline flags: cannot turn on global flag"
  | .globalFlagOff => "bad inline flags: cannot turn off global flag"
  | .typeFlagOff => "bad inline flags: cannot turn off flags 'a', 'u' and 'L'"
  | .flagOnAndOff => "bad inline flags: flag turned on and off"
  | .unknownFlag => "unknown flag"
  | .missingFlagEnd => "missing -, : or )"
  | .missingFlag => "missing flag"
  | .missingColon => "missing :"

inductive Error where
  /-- A fault at a place of the written pattern, with the line and the column of the place when the pattern has several lines. -/
  | fault (what : Fault) (position : Nat) (lineColumn : Option (Nat × Nat))
  /-- A count of repetitions that does not fit. -/
  | countTooLarge
  /-- A count of repetitions whose digits are too many to read. -/
  | countTooLong (digits : Number.TooManyDigits)
  /-- A condition on the text behind that does not have one width. -/
  | behindWidth
  /-- A condition on more text behind than can be counted. -/
  | behindTooFar
  deriving DecidableEq, Repr, Inhabited

def Error.message : Error → String
  | .fault what position lineColumn =>
    let place := what.text ++ " at position " ++ toString position
    match lineColumn with
    | none => place
    | some (line, column) => place ++ " (line " ++ toString line ++ ", column " ++ toString column ++ ")"
  | .countTooLarge => "the repetition number is too large"
  | .countTooLong digits => digits.message
  | .behindWidth => "look-behind requires fixed-width pattern"
  | .behindTooFar => "looks too much behind"

end ApiDoc.Pattern
