-- Tables that say that nothing was found. A table says so where it has no finding to show, and that
-- is not only where a report has none: a limit may leave all of them out.

import SourceAudit.Proofs.WorstFindings
import SourceAudit.Proofs.WrittenReports

namespace SourceAudit.Report

variable {report : Report} {limit : Int}

/-- A limit leaves no finding of a report to show. -/
def ShowsNone (report : Report) (limit : Int) : Prop :=
  report.findings = [] ∨ limit = 0 ∨ limit ≤ -report.findings.length

instance (report : Report) (limit : Int) : Decidable (report.ShowsNone limit) :=
  inferInstanceAs (Decidable (_ ∨ _))

theorem topFindings_eq_nil_iff : report.topFindings limit = [] ↔ report.ShowsNone limit := by
  obtain ⟨others, happend, hshown, hothers⟩ := report.exists_topFindings_append limit
  have hlength := congrArg List.length happend
  rw [List.length_append, report.inOrder_ranked.perm.length_eq] at hlength
  unfold ShowsNone
  rw [← List.length_eq_zero_iff, ← List.length_eq_zero_iff]
  omega

/-! ## How a table ends -/

theorem lines_table_of_showsNone (h : report.ShowsNone limit) (threshold : Severity) :
    (report.table limit threshold).lines =
      (report.headLines threshold ++ ["", "No issues detected."]).map .ofString := by
  have hlines := report.lines_table limit threshold ""
  rw [WideText.append_empty, WideText.append_empty, topFindings_eq_nil_iff.2 h] at hlines
  rw [hlines, List.map_append]
  congr 1

theorem lines_table_of_not_showsNone (h : ¬report.ShowsNone limit) (threshold : Severity) :
    (report.table limit threshold).lines =
      (report.headLines threshold ++ ["", "Top Findings", rule 40 '-']).map .ofString ++
        (WideText.intercalate "\n" ((report.topFindings limit).flatMap findingLines)).lines := by
  have hsome : report.topFindings limit ≠ [] := fun hnone => h (topFindings_eq_nil_iff.1 hnone)
  have hclosing : closingLines (report.topFindings limit) =
      ["", "Top Findings", rule 40 '-'].map .ofString ++
        (report.topFindings limit).flatMap findingLines := by
    rw [closingLines, if_neg (by simpa using hsome)]
    rfl
  have hbelow : (report.topFindings limit).flatMap findingLines ≠ [] := by
    obtain ⟨finding, hfinding⟩ := List.exists_mem_of_ne_nil _ hsome
    intro hnone
    have hempty := List.flatMap_eq_nil_iff.1 hnone finding hfinding
    cases hempty
  have hunbroken : ∀ line ∈ ["", "Top Findings", rule 40 '-'], Text.Unbroken line := by
    decide +kernel
  have hlines := report.lines_table limit threshold ""
  rw [hclosing, WideText.lines_intercalate_append hunbroken hbelow, ← List.append_assoc,
    ← List.map_append, WideText.append_empty, WideText.append_empty] at hlines
  exact hlines

/-! ## The law -/

/-- A report with one finding. -/
def oneFinding : Report :=
  assemble [
    { id := "vuln-0"
      rule := .ofString "bang"
      type := .ofString "Bang"
      severity := .high
      location := { line := 1 }
      description := .ofString "Loud."
      matchedCode := "!" }]

end SourceAudit.Report
