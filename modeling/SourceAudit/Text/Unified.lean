-- Digits and white space of every script, written with those of the first 128 characters. Numbers
-- are read from texts in this form.

import SourceAudit.Text.Category
import SourceAudit.Text.WideText

namespace SourceAudit.Text

/-- White space around a number. -/
def isPadding (c : Char) : Bool :=
  c == ' ' || (9 ≤ c.toNat && c.toNat ≤ 13)

/-- A character with its digit or its white space in plain form. Other characters beyond the first
ones stand for a question mark, which no number has. -/
def unifiedChar (c : Char) : Char :=
  if c.toNat < 127 then c
  else if isBlank c then ' '
  else match decimalValue? c with
    | some value => Char.ofNat (48 + value)
    | none => '?'

/-- A code point in plain form. -/
def unifiedPoint (p : CodePoint) : Char :=
  (p.toChar?.map unifiedChar).getD '?'

/-- A text in plain form, without the white space around it. -/
def unified (text : WideText) : List Char :=
  dropBothWhile isPadding (text.points.map unifiedPoint)

end SourceAudit.Text
