import DocAudit.Pattern.Basic
import DocAudit.Text.Lines
import DocAudit.Text.Quoted

/-!
# Pattern errors

Why a text is not a pattern. A cause carries what its message quotes; most errors also have the
position at which they were found.
-/

namespace DocAudit.Pattern

/-- Why a text is not a pattern. -/
inductive Cause where
  | unterminatedGroup
  | unbalancedParenthesis
  | unterminatedSet
  | badRange (low high : Text)
  | nothingToRepeat
  | multipleRepeat
  | leastAboveMost
  | badEscape (escape : Text)
  | danglingEscape
  | incompleteEscape (escape : Text)
  | octalTooLarge (escape : Text)
  | missingBrace
  | missingName (what : Text)
  | unterminatedName (closing : Char)
  | undefinedCharacter (name : Text)
  | invalidReference (group : Nat)
  | openReference
  | referenceWithinLookbehind
  | unknownExtension (extension : Text)
  | unexpectedEnd
  | missingFlagEnd
  | missingFlag
  | missingColon
  | unknownFlag
  | lateGlobalFlags
  | localeFlag
  | incompatibleFlags
  | globalFlagOn
  | globalFlagOff
  | typeFlagOff
  | flagOnAndOff
  | unterminatedComment
  | badGroupName (name : Text)
  | unknownGroupName (name : Text)
  | redefinedGroupName (name : Text) (group earlier : Nat)
  | badGroupNumber
  | tooManyBranches
  | variableLookbehind
  | unsupportedTemplate (greed : Greed)
  /-- A repetition count beyond the representable ones. -/
  | repetitionTooLarge
  /-- A repetition count that is written with too many digits to be read at all. -/
  | tooManyDigits (count : Nat)
  /-- Flags that were set apart from each other and exclude each other. -/
  | conflictingTypeFlags
  deriving DecidableEq, Repr

/-- The name of a repetition in messages. -/
def Greed.operator : Greed → Text
  | greedy => "MAX_REPEAT"
  | reluctant => "MIN_REPEAT"
  | possessive => "POSSESSIVE_REPEAT"

/-- Whether a cause is not counted as an error of the pattern but ends whatever needed it. -/
def Cause.isFatal : Cause → Bool
  | repetitionTooLarge | tooManyDigits _ | conflictingTypeFlags => true
  | _ => false

/-- The wording of a cause, without its position. -/
def Cause.message : Cause → Text
  | unterminatedGroup => "missing ), unterminated subpattern"
  | unbalancedParenthesis => "unbalanced parenthesis"
  | unterminatedSet => "unterminated character set"
  | badRange low high => "bad character range " ++ low ++ "-" ++ high
  | nothingToRepeat => "nothing to repeat"
  | multipleRepeat => "multiple repeat"
  | leastAboveMost => "min repeat greater than max repeat"
  | badEscape escape => "bad escape " ++ escape
  | danglingEscape => "bad escape (end of pattern)"
  | incompleteEscape escape => "incomplete escape " ++ escape
  | octalTooLarge escape => "octal escape value " ++ escape ++ " outside of range 0-0o377"
  | missingBrace => "missing \x7b"
  | missingName what => "missing " ++ what
  | unterminatedName closing => "missing " ++ [closing] ++ ", unterminated name"
  | undefinedCharacter name => "undefined character name " ++ Text.quoted name
  | invalidReference group => "invalid group reference " ++ Text.ofNat group
  | openReference => "cannot refer to an open group"
  | referenceWithinLookbehind => "cannot refer to group defined in the same lookbehind subpattern"
  | unknownExtension extension => "unknown extension " ++ extension
  | unexpectedEnd => "unexpected end of pattern"
  | missingFlagEnd => "missing -, : or )"
  | missingFlag => "missing flag"
  | missingColon => "missing :"
  | unknownFlag => "unknown flag"
  | lateGlobalFlags => "global flags not at the start of the expression"
  | localeFlag => "bad inline flags: cannot use 'L' flag with a str pattern"
  | incompatibleFlags => "bad inline flags: flags 'a', 'u' and 'L' are incompatible"
  | globalFlagOn => "bad inline flags: cannot turn on global flag"
  | globalFlagOff => "bad inline flags: cannot turn off global flag"
  | typeFlagOff => "bad inline flags: cannot turn off flags 'a', 'u' and 'L'"
  | flagOnAndOff => "bad inline flags: flag turned on and off"
  | unterminatedComment => "missing ), unterminated comment"
  | badGroupName name => "bad character in group name " ++ Text.quoted name
  | unknownGroupName name => "unknown group name " ++ Text.quoted name
  | redefinedGroupName name group earlier =>
    "redefinition of group name " ++ Text.quoted name ++ " as group " ++ Text.ofNat group ++
      "; was group " ++ Text.ofNat earlier
  | badGroupNumber => "bad group number"
  | tooManyBranches => "conditional backref with more than two branches"
  | variableLookbehind => "look-behind requires fixed-width pattern"
  | unsupportedTemplate greed => "internal: unsupported template operator " ++ greed.operator
  | repetitionTooLarge => "the repetition number is too large"
  | tooManyDigits count => Text.digitLimitMessage count
  | conflictingTypeFlags => "ASCII and UNICODE flags are incompatible"

/-- A cause, and the position at which it was found if it has one. -/
structure Error where
  cause : Cause
  position : Option Nat
  deriving DecidableEq, Repr

/-- Line and column of a position, for a text that has more than one line. -/
def lineNote (source : Text) (position : Nat) : Text :=
  if source.contains '\n' then
    let place := Text.lineAndColumn source position
    " (line " ++ Text.ofNat place.1 ++ ", column " ++ Text.ofNat place.2 ++ ")"
  else []

/-- The message of an error in the given pattern text. -/
def Error.message (source : Text) (error : Error) : Text :=
  match error.position with
  | none => error.cause.message
  | some position =>
    error.cause.message ++ " at position " ++ Text.ofNat position ++ lineNote source position

end DocAudit.Pattern
