-- Numbers with a point as they are read from texts: a sign, digits of any script around a point,
-- and a power of ten; or a word for an infinity or for no number.

import SourceAudit.Breakdown
import SourceAudit.Number.Binary64
import SourceAudit.Number.Integer
import SourceAudit.Text.Digits
import SourceAudit.Text.Unified

namespace SourceAudit.Number

open SourceAudit.Text (numberOf)

/-- Reads a power of ten: its mark, a sign or none, and digits. Nothing stands for zero. -/
def powerOfTen? : List Char → Option Int
  | [] => some 0
  | mark :: rest =>
    let (negative, digits) := splitSign rest
    if (mark == 'e' || mark == 'E') && !digits.isEmpty && digits.all Char.isDigit then
      let n : Int := numberOf 10 digits
      some (if negative then -n else n)
    else none

/-- Reads digits around a point and a power of ten. There is a digit on one side at least. -/
def decimal? (negative : Bool) (cs : List Char) : Option Binary64 :=
  let whole := cs.takeWhile Char.isDigit
  let rest := cs.drop whole.length
  let part := match rest with
    | '.' :: behind => behind.takeWhile Char.isDigit
    | _ => []
  let rest := match rest with
    | '.' :: behind => behind.drop part.length
    | rest => rest
  if whole.isEmpty && part.isEmpty then none
  else
    (powerOfTen? rest).map fun power =>
      Binary64.ofDecimal negative (numberOf 10 (whole ++ part)) (power - part.length)

/-- Reads a number with a point. -/
def readReal (text : WideText) : Except Breakdown Binary64 :=
  let (negative, cs) := splitSign (Text.unified text)
  let word := String.ofList (cs.map Char.toLower)
  if word = "inf" ∨ word = "infinity" then .ok (.infinite negative)
  else if word = "nan" then .ok .nan
  else
    match decimal? negative cs with
    | some x => .ok x
    | none => .error (.notReal text)

end SourceAudit.Number
