-- The overview of a report as a table of plain text.

import SourceAudit.Report.Basic
import SourceAudit.Text.Blank

namespace SourceAudit.Report

/-- A text filled up at its end to a width. -/
def padEnd (width : Nat) (text : String) : String :=
  text ++ String.ofList (List.replicate (width - text.length) ' ')

/-- A text filled up at its front to a width. -/
def padStart (width : Nat) (text : String) : String :=
  String.ofList (List.replicate (width - text.length) ' ') ++ text

/-- A line of one character. -/
def rule (width : Nat) (c : Char) : String :=
  String.ofList (List.replicate width c)

/-- One row of the table. -/
def row (name count : String) : String :=
  padEnd 10 name ++ " | " ++ padStart 5 count

/-- The three lines about a finding. -/
def findingLines (finding : Finding) : List WideText :=
  let file := match finding.location.file with
    | some file => if file.isEmpty then "<input>" else file
    | none => "<input>"
  ["[" ++ finding.severity.name ++ "] " ++ finding.id ++ " " ++ finding.type ++
      " (" ++ finding.rule ++ ")",
    "  Location: " ++ file ++ ":" ++ toString finding.location.line,
    "  Code    : " ++ Text.trim finding.matchedCode]

/-- The lines about the worst findings, or the one that says that there are none. -/
def closingLines (findings : List Finding) : List WideText :=
  if findings.isEmpty then ["", "No issues detected."]
  else "" :: "Top Findings" :: ↑(rule 40 '-') :: findings.flatMap findingLines

/-- The lines of the overview above its verdict. -/
def countLines (report : Report) : List String :=
  let header := row "Severity" "Count"
  ["Scan Summary", rule 40 '=', header, rule header.length '-'] ++
    report.summary.rows.map (fun (name, count) => row name (toString count)) ++
    [rule header.length '-']

/-- The line of the overview with its verdict. -/
def statusLine (report : Report) (threshold : Severity) : String :=
  "Status    : " ++ (if report.passed threshold then "PASS" else "FAIL")

/-- The lines of the overview above what it says of the findings. -/
def headLines (report : Report) (threshold : Severity) : List String :=
  report.countLines ++
    [report.statusLine threshold, "Findings  : " ++ toString report.summary.total]

/-- The lines of the overview. -/
def tableLines (report : Report) (limit : Int) (threshold : Severity) : List WideText :=
  (report.headLines threshold).map .ofString ++ closingLines (report.topFindings limit)

/-- The overview: counts, verdict, and the worst findings up to a limit. -/
def table (report : Report) (limit : Int) (threshold : Severity) : WideText :=
  .intercalate "\n" (report.tableLines limit threshold)

/-- How many findings an overview shows unless it is told otherwise. -/
def defaultLimit : Int := 5

end SourceAudit.Report
