-- Reports: findings with their counts, and the verdict on them.

import SourceAudit.Summary

namespace SourceAudit

/-- The findings of one scan or of several. Counts and findings agree in every report that is
assembled here; a report from elsewhere may hold any counts. -/
structure Report where
  summary : Summary := {}
  findings : List Finding := []
  deriving DecidableEq, Repr

namespace Report

/-! ## Making reports -/

/-- A report on findings, in their order. Records that only say that a file is clean are left
out. -/
def assemble (findings : List Finding) : Report :=
  let kept := findings.filter (!·.isPlaceholder)
  ⟨Summary.ofFindings kept, kept⟩

/-- One report on the findings of several. -/
def merge (reports : List Report) : Report :=
  assemble (reports.flatMap (·.findings))

/-! ## The verdict -/

/-- The severities from a threshold on that have findings. -/
def blocking (report : Report) (threshold : Severity) : List Severity :=
  Severity.gravestFirst.filter fun severity =>
    threshold ≤ severity && report.summary.count severity != 0

/-- Two for grave or critical findings from the threshold on, one for lesser ones, else zero. -/
def exitCode (report : Report) (threshold : Severity) : Nat :=
  match report.blocking threshold with
  | [] => 0
  | gravest :: _ => if Severity.high ≤ gravest then 2 else 1

/-- Nothing from the threshold on has been found. -/
def passed (report : Report) (threshold : Severity) : Bool :=
  report.exitCode threshold == 0

/-! ## The worst findings -/

/-- Texts in the order of code points. -/
def compareText (a b : String) : Ordering :=
  if a < b then .lt else if a = b then .eq else .gt

/-- The order of findings in an overview: the gravest first, then by file, line and
identifier. -/
def compareFindings (a b : Finding) : Ordering :=
  (compare b.severity.rank a.severity.rank).then <|
    (compareText (a.location.file.getD "") (b.location.file.getD "")).then <|
      (compare a.location.line b.location.line).then <|
        compareText a.id b.id

/-- All findings in the order of an overview. Equal ones keep their order. -/
def ranked (report : Report) : List Finding :=
  report.findings.mergeSort fun a b => compareFindings a b != .gt

/-- The worst findings, at most `limit` of them. A negative limit leaves out that many of the
least. -/
def topFindings (report : Report) (limit : Int) : List Finding :=
  let all := report.ranked
  if 0 ≤ limit then all.take limit.toNat else all.take (all.length - limit.natAbs)

end Report

end SourceAudit
