-- A place in a document that is being read. Line and column tell where the characters stand:
-- the layout of a document carries meaning.

namespace SourceAudit.Document.Yaml

/-! ## Characters with a meaning for the layout -/

/-- Stands for the end of the text. No document contains it. -/
def endMark : Char := '\x00'

/-- A character that ends a line. -/
def isBreak (c : Char) : Bool :=
  c == '\n' || c == '\x85' || c == '\u2028' || c == '\u2029'

/-- A space or a tab. -/
def isGap (c : Char) : Bool :=
  c == ' ' || c == '\t'

/-- The line is over. -/
def endsLine (c : Char) : Bool :=
  isBreak c || c == endMark

/-- A word is over. -/
def endsWord (c : Char) : Bool :=
  isGap c || endsLine c

/-! ## The cursor -/

/-- What is left of a text, and how many characters that is; and where it begins: how many
characters, lines, and characters of the line come before. -/
structure Cursor where
  rest : List Char
  left : Nat := rest.length
  index : Nat := 0
  line : Nat := 0
  column : Nat := 0
  deriving Repr

namespace Cursor

/-- The character at the cursor. -/
def peek (c : Cursor) : Char :=
  c.rest.headD endMark

/-- The character some places behind the cursor. -/
def peekAt (c : Cursor) (n : Nat) : Char :=
  (c.rest.drop n).headD endMark

/-- Nothing is left. -/
def atEnd (c : Cursor) : Bool :=
  c.rest.isEmpty

/-- One character on. A byte order mark takes no column. -/
def next (c : Cursor) : Cursor :=
  match c.rest with
  | [] => c
  | x :: rest =>
    if isBreak x then ⟨rest, c.left - 1, c.index + 1, c.line + 1, 0⟩
    else if x = '\uFEFF' then ⟨rest, c.left - 1, c.index + 1, c.line, c.column⟩
    else ⟨rest, c.left - 1, c.index + 1, c.line, c.column + 1⟩

/-- So many characters on. -/
def forward (c : Cursor) : Nat → Cursor
  | 0 => c
  | n + 1 => c.next.forward n

/-- Reads characters as long as they satisfy `p`. -/
def takeWhile (c : Cursor) (p : Char → Bool) : List Char × Cursor :=
  let taken := c.rest.takeWhile p
  (taken, c.forward taken.length)

/-- Behind all characters that satisfy `p`. -/
def skipWhile (c : Cursor) (p : Char → Bool) : Cursor :=
  (c.takeWhile p).2

/-- Behind the spaces. -/
def skipSpaces (c : Cursor) : Cursor :=
  c.skipWhile (· == ' ')

/-- Behind a comment, if one begins here. -/
def skipComment (c : Cursor) : Cursor :=
  if c.peek = '#' then c.skipWhile fun x => !endsLine x else c

/-- Behind spaces that stand before a column. -/
def skipSpacesTo (c : Cursor) (column : Nat) : Cursor :=
  c.forward ((c.rest.take (column - c.column)).takeWhile (· == ' ')).length

/-- Reads the end of a line. The separators of lines and paragraphs stand for themselves, and
any other break for a line feed. -/
def lineBreak? (c : Cursor) : Option (Char × Cursor) :=
  let x := c.peek
  if x = '\n' ∨ x = '\x85' then some ('\n', c.next)
  else if x = '\u2028' ∨ x = '\u2029' then some (x, c.next)
  else none

/-- Three of a character stand here, and nothing that belongs to them follows. -/
def atTriple (c : Cursor) (x : Char) : Bool :=
  c.rest.take 3 == [x, x, x] && endsWord (c.peekAt 3)

/-- A mark that begins or ends a document stands here. -/
def atDocumentMark (c : Cursor) : Bool :=
  c.atTriple '-' || c.atTriple '.'

end Cursor

end SourceAudit.Document.Yaml
