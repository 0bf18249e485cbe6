-- Runs that make reports: from findings, from other reports, from source code, and from reports
-- whose findings get their fixes. The reports at the start may be made by hand, with any counts.
-- Every report that a run makes is in order all the same.

import SourceAudit.Scan
import SourceAudit.Proofs.Verdicts

namespace SourceAudit

/-- A step that makes a report. Reports on the shelf are named by their places. -/
inductive Making where
  | assemble (findings : List Finding)
  | merge (places : List Nat)
  | scan (catalog : Catalog) (source : Source) (language : Language) (options : ScanOptions)
  | attachFixes (catalog : Catalog) (place : Nat)

namespace Making

/-! ## Steps -/

/-- The report that a step makes. There is none if the shelf lacks a report that the step names, or
if source code cannot be scanned. -/
def report? (shelf : List Report) : Making → Option Report
  | assemble findings => some (Report.assemble findings)
  | merge places => (places.mapM (shelf[·]?)).map Report.merge
  | scan catalog source language options => (catalog.scan source language options).toOption
  | attachFixes catalog place =>
    shelf[place]?.map fun report => Report.assemble (catalog.attachFixes report.findings)

/-- The findings that a step is given to put into its report. -/
def material (shelf : List Report) : Making → Option (List Finding)
  | assemble findings => some findings
  | merge places => (places.mapM (shelf[·]?)).map (·.flatMap (·.findings))
  | scan catalog source language options =>
    (catalog.inspect source language options).toOption.map (·.findings)
  | attachFixes catalog place =>
    shelf[place]?.map fun report => catalog.attachFixes report.findings

/-- The shelf after a step. A step that makes no report leaves it as it is. -/
def perform (shelf : List Report) (making : Making) : List Report :=
  shelf ++ (making.report? shelf).toList

/-- Whatever a step is given, its report is assembled from it. -/
theorem report?_eq (shelf : List Report) (making : Making) :
    making.report? shelf = (making.material shelf).map Report.assemble := by
  cases making with
  | assemble findings => rfl
  | merge places =>
    unfold report? material
    rw [Option.map_map]
    rfl
  | scan catalog source language options =>
    dsimp only [report?, material, Catalog.scan]
    cases catalog.inspect source language options <;> rfl
  | attachFixes catalog place =>
    unfold report? material
    rw [Option.map_map]
    rfl

/-- A step makes a report just if it is given something, and the report covers it. -/
theorem covers_of_report? {shelf : List Report} {making : Making} {report : Report}
    (h : making.report? shelf = some report) :
    ∃ findings, making.material shelf = some findings ∧ report.Covers findings := by
  rw [report?_eq, Option.map_eq_some_iff] at h
  obtain ⟨findings, hfindings, rfl⟩ := h
  exact ⟨findings, hfindings, Report.assemble_covers findings⟩

/-! ## Runs -/

/-- The shelf after some steps. -/
def run (shelf : List Report) (makings : List Making) : List Report :=
  makings.foldl perform shelf

/-- The reports that some steps make, one after another. -/
def made (shelf : List Report) : List Making → List Report
  | [] => []
  | making :: rest => (making.report? shelf).toList ++ made (perform shelf making) rest

/-- Steps add their reports, and change none that is there. -/
theorem run_eq (shelf : List Report) (makings : List Making) :
    run shelf makings = shelf ++ made shelf makings := by
  induction makings generalizing shelf with
  | nil => simp [run, made]
  | cons making rest ih =>
    unfold run at ih ⊢
    rw [List.foldl_cons, ih, made, ← List.append_assoc]
    rfl

/-- Each report that is made comes from one of the steps, on the shelf as it was then. -/
theorem exists_of_mem_made {shelf : List Report} {makings : List Making} {report : Report}
    (h : report ∈ made shelf makings) :
    ∃ before making after, makings = before ++ making :: after ∧
      making.report? (run shelf before) = some report := by
  induction makings generalizing shelf with
  | nil => cases h
  | cons making rest ih =>
    rcases List.mem_append.1 h with h | h
    · exact ⟨[], making, rest, rfl, Option.mem_toList.1 h⟩
    · obtain ⟨before, later, after, rfl, hreport⟩ := ih h
      exact ⟨making :: before, later, after, rfl, hreport⟩

/-! ## The law -/

/-- Whatever reports a run starts from, it adds to them only, and each report that it makes covers
what its step was given: it holds no record of a clean file and otherwise all findings in their
order, and all its counts are right. -/
theorem a_run_makes_reports_in_order (start : List Report) (makings : List Making) :
    run start makings = start ++ made start makings ∧
      ∀ report ∈ made start makings, ∃ before making after findings,
        makings = before ++ making :: after ∧
          making.report? (run start before) = some report ∧
          making.material (run start before) = some findings ∧ report.Covers findings := by
  refine ⟨run_eq start makings, fun report hreport => ?_⟩
  obtain ⟨before, making, after, hmakings, hmade⟩ := exists_of_mem_made hreport
  obtain ⟨findings, hgiven, hcovers⟩ := covers_of_report? hmade
  exact ⟨before, making, after, findings, hmakings, hmade, hgiven, hcovers⟩

end Making

end SourceAudit
