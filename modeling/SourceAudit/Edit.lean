-- Edits of source code, line by line. An edit replaces a whole line, by its number; the last
-- edit of a line wins, and edits of lines that are not there do nothing. Lines are spliced from
-- the bottom up, so that the numbers above stay good.

import SourceAudit.Text.Lines

namespace SourceAudit

open SourceAudit.Text (LineEnd PhysicalLine)

/-- The replacement of a line, by its number counted from one. -/
structure Edit where
  line : Int
  replacement : String
  deriving DecidableEq, Repr

namespace Edit

/-! ## Which edit counts -/

/-- The last edit of each line. -/
def latest (edits : List Edit) : List Edit :=
  edits.foldl (fun kept edit => kept.filter (·.line ≠ edit.line) ++ [edit]) []

/-- The last edits, those of the lowest lines first. -/
def bottomUp (edits : List Edit) : List Edit :=
  (latest edits).mergeSort fun a b => b.line ≤ a.line

/-! ## Splicing -/

/-- The break that a replacement of several lines uses on a line that has none: the two-character
one if the code has it anywhere. -/
def defaultBreak (lines : List PhysicalLine) : LineEnd :=
  if lines.any (·.ending = .crlf) then .crlf else .lf

/-- The lines that stand for one line: the pieces of its replacement. All but the last get the
break of the line, or the default one, and the last one keeps what the line had. -/
def replacementLines (default : LineEnd) (ending : LineEnd) : List (List Char) → List PhysicalLine
  | [] => []
  | [last] => [⟨last, ending⟩]
  | piece :: rest =>
    ⟨piece, if ending = .none then default else ending⟩ :: replacementLines default ending rest

/-- Splices one edit into the lines. -/
def splice (default : LineEnd) (lines : List PhysicalLine) (edit : Edit) : List PhysicalLine :=
  let index := edit.line - 1
  if index < 0 then lines
  else match lines[index.toNat]? with
    | none => lines
    | some line =>
      lines.take index.toNat ++
        replacementLines default line.ending (Text.pieces edit.replacement.toList) ++
        lines.drop (index.toNat + 1)

end Edit

/-- The code with all edits made. -/
def applyEdits (code : String) (edits : List Edit) : String :=
  let lines := Text.physicalLines code.toList
  let default := Edit.defaultBreak lines
  String.ofList (Text.joinLines ((Edit.bottomUp edits).foldl (Edit.splice default) lines))

end SourceAudit
