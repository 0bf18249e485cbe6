-- What ends an operation without a verdict on its input: limits that are exceeded, numbers and
-- times that cannot be read where one is promised, files that cannot be looked at.

import SourceAudit.Calendar
import SourceAudit.Text.Quoted
import SourceAudit.Text.Utf8

namespace SourceAudit

/-- Why an operation is given up. -/
inductive Breakdown where
  /-- Two alphabets are asked for in one pattern. -/
  | alphabetsClash
  /-- A count of a pattern is beyond all counts. -/
  | countTooLarge
  /-- An escape stands for a number beyond 31 bits. -/
  | pointTooLarge
  /-- An escape stands for a number beyond all code points. -/
  | pointBeyondAll
  /-- A pattern looks further back than can be counted. -/
  | lookBehindTooLong
  /-- Something is nested too deeply. -/
  | nestedTooDeep
  /-- A number has more digits than are read or written. How many there are is told where it is
  read. -/
  | tooManyDigits (count : Option Nat)
  /-- A text that should be an integer in a base is none. -/
  | notInteger (base : Nat) (text : WideText)
  /-- A text that should be a number with a point is none. -/
  | notReal (text : WideText)
  /-- Nothing is left of a number once its sign is taken off. -/
  | emptyNumber
  /-- A number has more parts of base sixty than can be weighed. -/
  | weightTooLarge
  /-- A word that should be a truth value is none. -/
  | notTruth
  /-- A text that should be a time is none. -/
  | notMoment
  /-- A time is promised where a mapping stands. -/
  | momentInMapping
  /-- The numbers of a time do not fit together. -/
  | noSuchMoment (fault : Calendar.Fault)
  /-- A key that should be a text is none. -/
  | keyNotText
  /-- A path is promised and nothing is given. -/
  | noPath
  /-- A path or a name in it is too long. -/
  | pathTooLong
  /-- A path contains the character that ends texts. -/
  | zeroInPath
  /-- A directory may not be entered, or a file not be read. -/
  | accessDenied
  /-- A file is a directory. -/
  | isDirectory
  /-- A file is not valid UTF-8. -/
  | notUtf8 (fault : Text.Utf8Fault)
  deriving DecidableEq, Repr

namespace Breakdown

/-- The greatest number of digits that a number is read from or written with. -/
def digitLimit : Nat := 4300

/-- A text in quotes, cut where it gets too long for a message. -/
def excerpt (text : WideText) : String :=
  String.ofList ((Text.quoted text).toList.take 200)

/-- What is said of an operation that is given up. -/
def message : Breakdown → String
  | alphabetsClash => "ASCII and UNICODE flags are incompatible"
  | countTooLarge => "the repetition number is too large"
  | pointTooLarge => "an escape is beyond all numbers"
  | pointBeyondAll => "chr() arg not in range(0x110000)"
  | lookBehindTooLong => "a look-behind reaches too far"
  | nestedTooDeep => "the input is nested too deeply"
  | tooManyDigits count =>
    let found := match count with
      | some count => ": value has " ++ toString count ++ " digits"
      | none => ""
    "Exceeds the limit (" ++ toString digitLimit ++ " digits) for integer string conversion" ++
      found ++ "; use sys.set_int_max_str_digits() to increase the limit"
  | notInteger base text =>
    "invalid literal for int() with base " ++ toString base ++ ": " ++ excerpt text
  | notReal text => "could not convert string to float: " ++ Text.quoted text
  | emptyNumber => "a number is empty"
  | weightTooLarge => "a number has too many parts"
  | notTruth => "a word is no truth value"
  | notMoment => "a text is no time"
  | momentInMapping => "a mapping is no time"
  | noSuchMoment fault => fault.message
  | keyNotText => "a key is not a text"
  | noPath => "a path is missing"
  | pathTooLong => "File name too long"
  | zeroInPath => "embedded null byte"
  | accessDenied => "Permission denied"
  | isDirectory => "Is a directory"
  | notUtf8 _ => "the file is not valid UTF-8"

end Breakdown

end SourceAudit
