-- Why a text gives no pattern: it is none, or the work on it is given up.

import SourceAudit.Breakdown

namespace SourceAudit.Pattern

/-- Why a text is no pattern. -/
inductive Malformed where
  | endsInEscape
  | badEscape
  | incompleteEscape
  | unknownCharacter
  | octalTooLarge
  | unterminatedClass
  | badRange
  | nothingToRepeat
  | multipleRepeat
  | repetitionReversed
  | repetitionInTemplate
  | unterminatedComment
  | unterminatedGroup
  | unbalancedParenthesis
  | unknownExtension
  | badGroupName
  | groupNameTaken
  | unknownGroup
  | openGroup
  | groupOfSameLookBehind
  | tooManyBranches
  | lookBehindNotFixed
  | badFlags
  | flagsNotAtStart
  deriving DecidableEq, Repr

/-- What is said of a text that is no pattern. -/
def Malformed.message : Malformed → String
  | endsInEscape => "the pattern ends inside an escape"
  | badEscape => "unknown escape"
  | incompleteEscape => "an escape lacks digits"
  | unknownCharacter => "no character has the name"
  | octalTooLarge => "an octal escape is beyond 377"
  | unterminatedClass => "a character class is not closed"
  | badRange => "a character range has no members"
  | nothingToRepeat => "nothing to repeat"
  | multipleRepeat => "a repetition is repeated"
  | repetitionReversed => "the least count is greater than the greatest"
  | repetitionInTemplate => "a template has no repetitions"
  | unterminatedComment => "a comment is not closed"
  | unterminatedGroup => "a group is not closed"
  | unbalancedParenthesis => "a parenthesis closes nothing"
  | unknownExtension => "unknown extension"
  | badGroupName => "bad group name"
  | groupNameTaken => "a group name is used twice"
  | unknownGroup => "no such group"
  | openGroup => "a group refers to itself"
  | groupOfSameLookBehind => "a look-behind refers to a group of its own"
  | tooManyBranches => "a condition has more than two branches"
  | lookBehindNotFixed => "a look-behind has no fixed width"
  | badFlags => "bad flags"
  | flagsNotAtStart => "flags for the whole pattern do not stand at its start"

/-- Why a text gives no pattern. -/
inductive Fault where
  | malformed (reason : Malformed)
  | broken (cause : Breakdown)
  deriving DecidableEq, Repr

/-- What is said of a text that gives no pattern. -/
def Fault.message : Fault → String
  | malformed reason => reason.message
  | broken cause => cause.message

/-- Gives up on a text that is no pattern. -/
def refuse (reason : Malformed) : Except Fault α :=
  .error (.malformed reason)

/-- Gives up the work on a text. -/
def abandon (cause : Breakdown) : Except Fault α :=
  .error (.broken cause)

end SourceAudit.Pattern
