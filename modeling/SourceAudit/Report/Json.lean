-- Reports as JSON, indented by two spaces for each level. Texts are written in ASCII; other
-- characters are escaped as UTF-16 units, and so are surrogates.

import SourceAudit.Report.Basic
import SourceAudit.Text.Digits

namespace SourceAudit

open SourceAudit.Text (CodePoint)

/-- A value of JSON, as far as reports need it. -/
inductive Json where
  | null
  | bool (b : Bool)
  | int (n : Int)
  | text (s : WideText)
  | list (items : List Json)
  | object (entries : List (String × Json))
  deriving Repr

namespace Json

/-! ## Texts -/

/-- The escape of a UTF-16 unit. -/
def unitEscape (n : Nat) : List Char :=
  '\\' :: 'u' :: Text.hexDigits 4 n

/-- How a character is written. -/
def writtenChar (c : Char) : List Char :=
  if c = '"' then ['\\', '"']
  else if c = '\\' then ['\\', '\\']
  else if c = '\n' then ['\\', 'n']
  else if c = '\r' then ['\\', 'r']
  else if c = '\t' then ['\\', 't']
  else if c = '\x08' then ['\\', 'b']
  else if c = '\x0c' then ['\\', 'f']
  else
    let n := c.toNat
    if 32 ≤ n ∧ n ≤ 126 then [c]
    else if n < 0x10000 then unitEscape n
    else
      unitEscape (0xD800 + (n - 0x10000) / 1024) ++ unitEscape (0xDC00 + (n - 0x10000) % 1024)

/-- How a code point is written. -/
def writtenPoint (p : CodePoint) : List Char :=
  match p.toChar? with
  | some c => writtenChar c
  | none => unitEscape p.val

/-- How a text is written. -/
def writtenText (s : WideText) : String :=
  "\"" ++ String.ofList (s.points.flatMap writtenPoint) ++ "\""

/-! ## Values -/

/-- A line break, and the indentation of a level. -/
def newline (level : Nat) : String :=
  "\n" ++ String.ofList (List.replicate (2 * level) ' ')

mutual

/-- A value, at a level of indentation. -/
def writeAt (level : Nat) : Json → String
  | null => "null"
  | bool b => if b then "true" else "false"
  | int n => toString n
  | text s => writtenText s
  | list [] => "[]"
  | list (item :: items) =>
    "[" ++ newline (level + 1) ++ writeAt (level + 1) item ++ writeItems (level + 1) items ++
      newline level ++ "]"
  | object [] => "\x7b\x7d"
  | object ((key, value) :: entries) =>
    "\x7b" ++ newline (level + 1) ++ writtenText key ++ ": " ++ writeAt (level + 1) value ++
      writeEntries (level + 1) entries ++ newline level ++ "\x7d"

/-- Further items of a list. -/
def writeItems (level : Nat) : List Json → String
  | [] => ""
  | item :: items => "," ++ newline level ++ writeAt level item ++ writeItems level items

/-- Further entries of an object. -/
def writeEntries (level : Nat) : List (String × Json) → String
  | [] => ""
  | (key, value) :: entries =>
    "," ++ newline level ++ writtenText key ++ ": " ++ writeAt level value ++
      writeEntries level entries

end

/-- A value as a text of several lines. -/
def write (json : Json) : String :=
  json.writeAt 0

/-- A value that may be missing. -/
def optional (f : α → Json) : Option α → Json
  | some x => f x
  | none => null

end Json

/-! ## Reports -/

/-- The place of a finding. -/
def Location.json (location : Location) : Json :=
  .object [("line", .int location.line), ("column", .optional .int location.column),
    ("file", .optional (fun (file : String) => .text file) location.file)]

/-- A finding with all its fields. -/
def Finding.json (finding : Finding) : Json :=
  .object [("id", .text finding.id), ("rule_id", .text finding.rule), ("type", .text finding.type),
    ("severity", .text finding.severity.name), ("location", finding.location.json),
    ("description", .text finding.description), ("matched_code", .text finding.matchedCode),
    ("cwe_id", .optional .text finding.cwe),
    ("references", .list (finding.references.map .text)),
    ("suggested_fix", .optional .text finding.suggestedFix),
    ("status", .text finding.status.name)]

/-- Counts, the total first. -/
def Summary.json (summary : Summary) : Json :=
  .object (("total", .int summary.total) ::
    summary.rows.map fun (name, count) => (name, .int count))

/-- The fields of a report. -/
def Report.jsonFields (report : Report) : List (String × Json) :=
  [("summary", report.summary.json), ("findings", .list (report.findings.map (·.json)))]

/-- A report. -/
def Report.json (report : Report) : Json :=
  .object report.jsonFields

/-- A report with the verdict on it. -/
def Report.verdictJson (report : Report) (threshold : Severity) : Json :=
  .object (report.jsonFields ++
    [("passed", .bool (report.passed threshold)), ("fail_on", .text threshold.name)])

end SourceAudit
