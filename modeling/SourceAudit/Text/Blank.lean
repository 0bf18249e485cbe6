-- White space, and texts without it at their ends. A text is blank when nothing else is
-- in it.

namespace SourceAudit.Text

/-- The number of a white space: of the controls that separate, the spaces of every width, and the
line and paragraph separators. The zero-width space and the byte order mark are not among them. -/
def isBlankNumber (n : Nat) : Bool :=
  (9 ≤ n && n ≤ 13) || (28 ≤ n && n ≤ 32) || n == 0x85 || n == 0xA0 || n == 0x1680 ||
    (0x2000 ≤ n && n ≤ 0x200A) || n == 0x2028 || n == 0x2029 || n == 0x202F || n == 0x205F ||
    n == 0x3000

/-- White space. -/
def isBlank (c : Char) : Bool :=
  isBlankNumber c.toNat

/-- Every character of the text is white space; so is the empty text. -/
def blank (text : String) : Bool :=
  text.toList.all isBlank

/-! ## Trimming -/

/-- A list without the members at its end that satisfy `p`. -/
def dropEndWhile {α : Type} (p : α → Bool) (xs : List α) : List α :=
  (xs.reverse.dropWhile p).reverse

/-- A list without the members at either end that satisfy `p`. -/
def dropBothWhile {α : Type} (p : α → Bool) (xs : List α) : List α :=
  dropEndWhile p (xs.dropWhile p)

/-- The text without white space at its end. -/
def trimEnd (text : String) : String :=
  String.ofList (dropEndWhile isBlank text.toList)

/-- The text without white space at either end. -/
def trim (text : String) : String :=
  String.ofList (dropBothWhile isBlank text.toList)

end SourceAudit.Text
