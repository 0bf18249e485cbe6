-- The value of a scalar whose tag is known. The tag decides how the text is read, even if it is not
-- spelled as it would be without a tag.

import SourceAudit.Document.Value
import SourceAudit.Document.Yaml.PlainScalar
import SourceAudit.Document.Yaml.Token
import SourceAudit.Number.Real
import SourceAudit.Text.Base64

namespace SourceAudit.Document.Yaml

open SourceAudit.Calendar
open SourceAudit.Number

/-! ## Numbers -/

/-- Takes a sign off; true stands for minus. -/
def signed (text : WideText) : Bool × WideText :=
  match text.behind? "-", text.behind? "+" with
  | some rest, _ => (true, rest)
  | none, some rest => (false, rest)
  | none, none => (false, text)

/-- Takes the underscores out of a number, and its sign off. Nothing has no sign. -/
def bareNumber (text : WideText) : Except Breakdown (Bool × WideText) :=
  let text := text.erase '_'
  if text.isEmpty then .error .emptyNumber else .ok (signed text)

/-- Reads a whole number without underscores and sign, with the base that its beginning names. -/
def readMagnitude (text : WideText) : Except Breakdown Int :=
  if text.isEmpty then .error .emptyNumber
  else if text = "0" then .ok 0
  else match text.behind? "0b", text.behind? "0x" with
    | some rest, _ => readInteger 2 rest
    | none, some rest => readInteger 16 rest
    | none, none =>
      if text.startsWith "0" then readInteger 8 text
      else do
        let parts ← (text.parts ':').mapM (readInteger 10)
        return parts.foldl (fun n part => n * 60 + part) 0

/-- Reads a whole number. -/
def readWhole (text : WideText) : Except Breakdown Int := do
  let (negative, text) ← bareNumber text
  let n ← readMagnitude text
  return if negative then -n else n

/-- The number that parts of base sixty stand for, the last one first. Each step rounds. -/
def weighed (total : Binary64) (weight : Nat) : List Binary64 → Except Breakdown Binary64
  | [] => .ok total
  | part :: rest =>
    match Binary64.ofNat weight with
    | .infinite _ => .error .weightTooLarge
    | factor => weighed (total.sum (part.product factor)) (weight * 60) rest

/-- Reads a number with a point, in lower case and without underscores and sign. -/
def readRealMagnitude (text : WideText) : Except Breakdown Binary64 :=
  if text = ".inf" then .ok (.infinite false)
  else if text = ".nan" then .ok .nan
  else
    match text.parts ':' with
    | first :: second :: more => do
      let parts ← (first :: second :: more).mapM readReal
      weighed (.ofNat 0) 1 parts.reverse
    | _ => readReal text

/-- Reads a number with a point. -/
def readRealText (text : WideText) : Except Breakdown Binary64 := do
  let (negative, text) ← bareNumber text.lowercase
  let x ← readRealMagnitude text
  return if negative then x.negate else x

/-! ## Other kinds -/

/-- Reads a truth value. -/
def readTruth (text : WideText) : Except Breakdown Bool :=
  let word := text.lowercase
  if (["yes", "true", "on"] : List WideText).contains word then .ok true
  else if (["no", "false", "off"] : List WideText).contains word then .ok false
  else .error .notTruth

/-- The day or the time of a spelling. -/
def MomentText.value (moment : MomentText) : Except Calendar.Fault Value :=
  match moment.clock with
  | none => (Date.make moment.year moment.month moment.day).map .date
  | some clock =>
    (Moment.make moment.year moment.month moment.day clock.hour clock.minute clock.second
      clock.microsecond clock.offset).map .moment

/-- Reads a day or a time. -/
def readMoment (text : WideText) : Except Breakdown Value :=
  match text.text?.bind fun text => momentText? (Tag.withoutLineFeed text).toList with
  | none => .error .notMoment
  | some moment => moment.value.mapError .noSuchMoment

/-- Reads bytes. -/
def readBytes (text : WideText) : Except Fault Value :=
  if text.points.any fun p => 127 < p.val then .error .badBase64
  else
    match text.text?.bind fun text => Text.readBase64 text.toList with
    | some bytes => .ok (.bytes bytes)
    | none => .error .badBase64

/-! ## Scalars -/

/-- The value of a scalar. -/
def scalarValue (tag : Tag) (text : WideText) : Except Fault Value :=
  match tag with
  | .null => .ok .null
  | .text => .ok (.text text)
  | .bool => ((readTruth text).map .bool).mapError .broken
  | .int => ((readWhole text).map .int).mapError .broken
  | .float => ((readRealText text).map .float).mapError .broken
  | .moment => (readMoment text).mapError .broken
  | .binary => readBytes text
  | _ => .error .kindMismatch

end SourceAudit.Document.Yaml
