-- Physical lines. A carriage return with a line feed behind it, a carriage return alone and
-- a line feed alone each end a line; nothing else does. A break at the end of the text opens
-- no further line.

namespace SourceAudit.Text

/-! ## Lines as a reader counts them -/

/-- The lines of a text whose first line has begun with `current`, nearest character first. -/
def linesFrom (current : List Char) : List Char → List (List Char)
  | [] => if current.isEmpty then [] else [current.reverse]
  | '\r' :: '\n' :: rest => current.reverse :: linesFrom [] rest
  | '\r' :: rest => current.reverse :: linesFrom [] rest
  | '\n' :: rest => current.reverse :: linesFrom [] rest
  | c :: rest => linesFrom (c :: current) rest

/-- The lines of a text, without their breaks. -/
def lines (text : String) : List String :=
  (linesFrom [] text.toList).map String.ofList

/-! ## Lines with the break that ends them -/

/-- What ends a physical line. Only the last line of a text may stand open. -/
inductive LineEnd where
  | none
  | lf
  | cr
  | crlf
  deriving DecidableEq, Repr

/-- The characters of a break. -/
def LineEnd.toChars : LineEnd → List Char
  | .none => []
  | .lf => ['\n']
  | .cr => ['\r']
  | .crlf => ['\r', '\n']

/-- A line and its break. -/
structure PhysicalLine where
  text : List Char
  ending : LineEnd
  deriving DecidableEq, Repr

/-- The line as it stands in the text. -/
def PhysicalLine.toChars (line : PhysicalLine) : List Char :=
  line.text ++ line.ending.toChars

/-- The physical lines of a text whose first line has begun with `current`, nearest character
first. -/
def physicalLinesFrom (current : List Char) : List Char → List PhysicalLine
  | [] => if current.isEmpty then [] else [⟨current.reverse, .none⟩]
  | '\r' :: '\n' :: rest => ⟨current.reverse, .crlf⟩ :: physicalLinesFrom [] rest
  | '\r' :: rest => ⟨current.reverse, .cr⟩ :: physicalLinesFrom [] rest
  | '\n' :: rest => ⟨current.reverse, .lf⟩ :: physicalLinesFrom [] rest
  | c :: rest => physicalLinesFrom (c :: current) rest

/-- The physical lines of a text, each with its break. -/
def physicalLines (text : List Char) : List PhysicalLine :=
  physicalLinesFrom [] text

/-- The text that consists of the given physical lines. -/
def joinLines (lines : List PhysicalLine) : List Char :=
  lines.flatMap PhysicalLine.toChars

/-! ## Pieces between breaks -/

/-- The pieces between the breaks of a text whose first piece has begun with `current`. Unlike
lines, pieces include the empty one behind a final break. -/
def piecesFrom (current : List Char) : List Char → List (List Char)
  | [] => [current.reverse]
  | '\r' :: '\n' :: rest => current.reverse :: piecesFrom [] rest
  | '\r' :: rest => current.reverse :: piecesFrom [] rest
  | '\n' :: rest => current.reverse :: piecesFrom [] rest
  | c :: rest => piecesFrom (c :: current) rest

/-- The pieces of a text between its breaks; there is always at least one. -/
def pieces (text : List Char) : List (List Char) :=
  piecesFrom [] text

end SourceAudit.Text
