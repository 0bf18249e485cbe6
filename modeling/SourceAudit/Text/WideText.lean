-- The texts of documents. An escape can put any code point into them, so they are wider than
-- texts of characters: surrogates may stand in them, each for itself. Only a text without any has
-- a form in UTF-8.

import SourceAudit.Text.Blank
import SourceAudit.Text.LetterCase
import SourceAudit.Text.Utf8

namespace SourceAudit

open SourceAudit.Text

namespace Text.CodePoint

/-- A character as a code point. -/
def ofChar (c : Char) : CodePoint :=
  Fin.ofNat 0x110000 c.toNat

/-- The character that a code point is, unless it is a surrogate. -/
def toChar? (p : CodePoint) : Option Char :=
  if p.isSurrogate then none else some (Char.ofNat p.val)

/-- White space. -/
def isBlank (p : CodePoint) : Bool :=
  isBlankNumber p.val

end Text.CodePoint

/-- A text of any code points. -/
structure WideText where
  points : List CodePoint
  deriving DecidableEq, Repr, Inhabited

namespace WideText

/-- A text of characters. -/
def ofString (text : String) : WideText :=
  ⟨text.toList.map CodePoint.ofChar⟩

instance : Coe String WideText := ⟨ofString⟩

/-- The characters of the text, unless a surrogate stands in it. -/
def text? (text : WideText) : Option String :=
  (readCodePoints text.points).toOption.map String.ofList

/-- The text has no code points. -/
def isEmpty (text : WideText) : Bool :=
  text.points.isEmpty

/-- A character stands in the text. -/
def contains (text : WideText) (c : Char) : Bool :=
  text.points.contains (.ofChar c)

/-! ## Putting together -/

instance : Append WideText := ⟨fun a b => ⟨a.points ++ b.points⟩⟩

/-- Some texts with a separator between them. -/
def intercalate (separator : WideText) (texts : List WideText) : WideText :=
  ⟨separator.points.intercalate (texts.map points)⟩

/-! ## Order -/

/-- The order of code points. -/
instance : LT WideText := ⟨fun a b => a.points < b.points⟩

instance (a b : WideText) : Decidable (a < b) :=
  inferInstanceAs (Decidable (a.points < b.points))

/-- Texts in the order of code points. -/
def sorted (texts : List WideText) : List WideText :=
  texts.mergeSort fun a b => !(b < a)

/-! ## Beginnings and parts -/

/-- The text begins with another one. -/
def startsWith (text beginning : WideText) : Bool :=
  beginning.points.isPrefixOf text.points

/-- What stands behind a beginning, if the text begins with it. -/
def behind? (text beginning : WideText) : Option WideText :=
  if text.startsWith beginning then some ⟨text.points.drop beginning.points.length⟩ else none

/-- The text without a character, wherever it stands. -/
def erase (text : WideText) (c : Char) : WideText :=
  ⟨text.points.filter (· != .ofChar c)⟩

/-- The parts between code points, where the first part has begun with `current`, nearest code
point first. -/
def partsFrom (mark : CodePoint) (current : List CodePoint) : List CodePoint → List WideText
  | [] => [⟨current.reverse⟩]
  | p :: rest =>
    if p = mark then ⟨current.reverse⟩ :: partsFrom mark [] rest
    else partsFrom mark (p :: current) rest

/-- The parts between the places of a character. -/
def parts (text : WideText) (mark : Char) : List WideText :=
  partsFrom (.ofChar mark) [] text.points

/-! ## White space at the ends -/

/-- Every code point of the text is white space; so is the empty text. -/
def blank (text : WideText) : Bool :=
  text.points.all CodePoint.isBlank

theorem blank_empty : (WideText.ofString "").blank = true := rfl

/-- The text without white space at either end. -/
def trim (text : WideText) : WideText :=
  ⟨dropBothWhile CodePoint.isBlank text.points⟩

/-- The text without line feeds at either end. -/
def trimLineFeeds (text : WideText) : WideText :=
  ⟨dropBothWhile (· == .ofChar '\n') text.points⟩

/-! ## Lower case -/

/-- Lower case of code points that continue behind `before`, nearest code point first. -/
def lowerFrom (before : List CodePoint) : List CodePoint → List CodePoint
  | [] => []
  | p :: rest =>
    let lowered := match p.toChar? with
      | some c => (lowerChar Fin.val before c rest).map CodePoint.ofChar
      | none => [p]
    lowered ++ lowerFrom (p :: before) rest

/-- The text in lower case. -/
def lowercase (text : WideText) : WideText :=
  ⟨lowerFrom [] text.points⟩

end WideText

end SourceAudit
