-- Integers as they are read from texts in a base: a sign, a mark of the base, and digits of any
-- script between which single underscores may stand.

import SourceAudit.Breakdown
import SourceAudit.Text.Digits
import SourceAudit.Text.Unified

namespace SourceAudit.Number

open SourceAudit.Text (hexValue? numberOf)

/-- Takes a sign off; true stands for minus. -/
def splitSign : List Char → Bool × List Char
  | '-' :: rest => (true, rest)
  | '+' :: rest => (false, rest)
  | rest => (false, rest)

/-- A mark of the base stands here. -/
def isBaseMark (base : Nat) (c : Char) : Bool :=
  (base == 2 && (c == 'b' || c == 'B')) || (base == 8 && (c == 'o' || c == 'O')) ||
    (base == 16 && (c == 'x' || c == 'X'))

/-- Takes off a zero and the mark of the base, and an underscore behind them. -/
def dropBaseMark (base : Nat) : List Char → List Char
  | '0' :: c :: rest =>
    if isBaseMark base c then
      match rest with
      | '_' :: rest => rest
      | rest => rest
    else '0' :: c :: rest
  | cs => cs

/-- A digit of a base. -/
def isDigitOf (base : Nat) (c : Char) : Bool :=
  (hexValue? c).any (· < base)

/-- Digits and underscores stand as they should: a digit on each side of every underscore. -/
def underscoresFit : (behindDigit : Bool) → List Char → Bool
  | behindDigit, [] => behindDigit
  | behindDigit, c :: rest =>
    if c = '_' then behindDigit && underscoresFit false rest else underscoresFit true rest

/-- Reads an integer. -/
def readInteger (base : Nat) (text : WideText) : Except Breakdown Int :=
  let (negative, cs) := splitSign (Text.unified text)
  let cs := dropBaseMark base cs
  let body := cs.takeWhile fun c => isDigitOf base c || c == '_'
  let digits := body.filter (· != '_')
  if !underscoresFit false body then .error (.notInteger base text)
  else if base = 10 ∧ Breakdown.digitLimit < digits.length then
    .error (.tooManyDigits (some digits.length))
  else if body.length < cs.length then .error (.notInteger base text)
  else
    let magnitude : Int := numberOf base digits
    .ok (if negative then -magnitude else magnitude)

end SourceAudit.Number
