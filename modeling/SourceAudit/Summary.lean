-- Counts of findings by severity.

import SourceAudit.Finding

namespace SourceAudit

/-- How many findings there are of each severity. A summary from elsewhere may hold any
numbers. -/
structure Summary where
  critical : Int := 0
  high : Int := 0
  medium : Int := 0
  low : Int := 0
  deriving DecidableEq, Repr

namespace Summary

/-- The count for a severity. -/
def count (summary : Summary) : Severity → Int
  | .critical => summary.critical
  | .high => summary.high
  | .medium => summary.medium
  | .low => summary.low

/-- One finding more of a severity. -/
def increment (summary : Summary) : Severity → Summary
  | .critical => { summary with critical := summary.critical + 1 }
  | .high => { summary with high := summary.high + 1 }
  | .medium => { summary with medium := summary.medium + 1 }
  | .low => { summary with low := summary.low + 1 }

/-- The counts of all severities together. -/
def total (summary : Summary) : Int :=
  (Severity.gravestFirst.map summary.count).foldr (· + ·) 0

/-- The counts with the names of the severities, the gravest first. -/
def rows (summary : Summary) : List (String × Int) :=
  Severity.gravestFirst.map fun severity => (severity.name, summary.count severity)

/-- Counts findings. Records that only say that a file is clean do not count. -/
def ofFindings (findings : List Finding) : Summary :=
  findings.foldl
    (fun summary finding =>
      if finding.isPlaceholder then summary else summary.increment finding.severity) {}

end Summary

end SourceAudit
