-- Indentation of a text by four spaces. More characters end a line here than in source code:
-- the vertical tab, the form feed, the separators of files, groups and records, the next-line
-- control, and the line and paragraph separators. Lines of white space alone stay as they are.

import SourceAudit.Text.WideText

namespace SourceAudit.Text

/-- The number of a character that ends a line of running text. -/
def endsProseLine (n : Nat) : Bool :=
  (10 ≤ n && n ≤ 13) || (0x1C ≤ n && n ≤ 0x1E) || n == 0x85 || n == 0x2028 || n == 0x2029

/-- Lines of running text, each with its break, where the first line has begun with `current`,
nearest code point first. -/
def proseLinesFrom (current : List CodePoint) : List CodePoint → List (List CodePoint)
  | [] => if current.isEmpty then [] else [current.reverse]
  | [p] => [(p :: current).reverse]
  | p :: q :: rest =>
    if p.val = 13 ∧ q.val = 10 then (q :: p :: current).reverse :: proseLinesFrom [] rest
    else if endsProseLine p.val then (p :: current).reverse :: proseLinesFrom [] (q :: rest)
    else proseLinesFrom (p :: current) (q :: rest)

/-- One line behind four spaces, or the line itself if it is white space alone. -/
def indentLine (line : List CodePoint) : List CodePoint :=
  if line.all CodePoint.isBlank then line else List.replicate 4 (.ofChar ' ') ++ line

/-- Every line of a text behind four spaces, except lines of white space alone. -/
def indent (text : WideText) : WideText :=
  ⟨(proseLinesFrom [] text.points).flatMap indentLine⟩

end SourceAudit.Text
