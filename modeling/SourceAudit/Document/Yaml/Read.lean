-- Reading a document from its text. Line ends of every kind are one, a byte order mark in front
-- does not count, and controls other than tabs and line ends are not allowed.

import SourceAudit.Document.Yaml.Build
import SourceAudit.Document.Yaml.Lexer
import SourceAudit.Text.Lines

namespace SourceAudit.Document.Yaml

/-- A character that a document may contain. -/
def isAllowed (c : Char) : Bool :=
  let n := c.toNat
  n == 9 || n == 10 || n == 13 || (0x20 ≤ n && n ≤ 0x7E) || n == 0x85 ||
    (0xA0 ≤ n && n ≤ 0xFFFD) || 0x10000 ≤ n

/-- A text whose lines all end in a line feed. -/
def unifyLineEnds (text : List Char) : List Char :=
  ['\n'].intercalate (Text.pieces text)

/-- The text without a byte order mark in front. -/
def dropOrderMark : List Char → List Char
  | '\uFEFF' :: rest => rest
  | text => text

/-- How many steps are enough to look through a document with so many tokens: a way into it goes
down at most so many nodes between any two places, and never twice through the same place. -/
def stepsFor (tokens : Nat) : Nat :=
  (tokens + 2) * (tokens + 2)

/-- Reads a document. Without any content it stands for nothing. -/
def read (text : List Char) : Except Fault Value :=
  if !text.all isAllowed then .error .notPrintable
  else do
    let stream := tokens (dropOrderMark (unifyLineEnds text))
    match ← document stream with
    | some graph => graph.value (stepsFor stream.tokens.length)
    | none => return .null

end SourceAudit.Document.Yaml
