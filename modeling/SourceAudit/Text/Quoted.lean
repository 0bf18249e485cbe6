-- Quoted text, as messages show a value. Single quotes stand around it, or double quotes if
-- only single ones occur inside. What cannot be shown is written as an escape.

import SourceAudit.Text.Category
import SourceAudit.Text.Digits
import SourceAudit.Text.WideText

namespace SourceAudit.Text

/-- An escape with two, four or eight digits, the fewest that hold a number. -/
def numericEscape (n : Nat) : List Char :=
  if n < 0x100 then '\\' :: 'x' :: hexDigits 2 n
  else if n < 0x10000 then '\\' :: 'u' :: hexDigits 4 n
  else '\\' :: 'U' :: hexDigits 8 n

/-- The mark to quote with, where single or double quotes may occur inside. -/
def quoteMark (hasSingle hasDouble : Bool) : Char :=
  if hasSingle && !hasDouble then '"' else '\''

/-- How one character stands between marks. -/
def quotedChar (mark c : Char) : List Char :=
  if c = '\\' || c = mark then ['\\', c]
  else if c = '\n' then ['\\', 'n']
  else if c = '\r' then ['\\', 'r']
  else if c = '\t' then ['\\', 't']
  else if isPrintable c then [c]
  else numericEscape c.toNat

/-- How one code point stands between marks. -/
def quotedPoint (mark : Char) (p : CodePoint) : List Char :=
  match p.toChar? with
  | some c => quotedChar mark c
  | none => numericEscape p.val

/-- A text in quotes. -/
def quoted (text : WideText) : String :=
  let mark := quoteMark (text.contains '\'') (text.contains '"')
  String.ofList (mark :: text.points.flatMap (quotedPoint mark) ++ [mark])

/-- How one byte stands between marks. Only those of the first 127 characters that can be shown
stand for themselves. -/
def quotedByte (mark : Char) (b : UInt8) : List Char :=
  if b < 0x7F then quotedChar mark (Char.ofNat b.toNat) else '\\' :: 'x' :: hexDigits 2 b.toNat

/-- Bytes in quotes. -/
def quotedBytes (bytes : List UInt8) : String :=
  let mark := quoteMark (bytes.contains 0x27) (bytes.contains 0x22)
  String.ofList ('b' :: mark :: bytes.flatMap (quotedByte mark) ++ [mark])

end SourceAudit.Text
