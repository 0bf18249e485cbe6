-- The findings that an overview shows. They are the worst ones, by severity, file, line and
-- identifier, and those that are alike in all of these stay as they came; so the rest of the
-- findings follows behind them in the same order.

import SourceAudit.Proofs.SortedByKey
import SourceAudit.Report.Basic
import Mathlib.Data.Prod.Lex
import Mathlib.Data.String.Basic

namespace SourceAudit

/-- What findings are ordered by: the gravest severity is the least, and a missing file is one
without a name. -/
def Finding.standing (finding : Finding) : Nat ×ₗ String ×ₗ Int ×ₗ String :=
  toLex (Severity.gravestFirst.idxOf finding.severity, toLex (finding.location.file.getD "",
    toLex (finding.location.line, finding.id)))

/-- Findings have the same standing when they have the same severity, file, line and identifier. -/
theorem Finding.standing_eq_iff {a b : Finding} :
    a.standing = b.standing ↔ a.severity = b.severity ∧
      a.location.file.getD "" = b.location.file.getD "" ∧ a.location.line = b.location.line ∧
        a.id = b.id := by
  have hseverity : Severity.gravestFirst.idxOf a.severity =
      Severity.gravestFirst.idxOf b.severity ↔ a.severity = b.severity := by
    cases a.severity <;> cases b.severity <;> decide
  simp only [standing, EmbeddingLike.apply_eq_iff_eq, Prod.mk.injEq, hseverity]

/-- Findings in the order of an overview: all of them, the worst first, and those of one standing as
they came. -/
structure InOrder (findings sorted : List Finding) : Prop where
  perm : sorted.Perm findings
  pairwise : sorted.Pairwise fun a b => a.standing ≤ b.standing
  stable : ∀ standing, sorted.filter (·.standing = standing) =
    findings.filter (·.standing = standing)

/-! ## Comparing findings -/

theorem Severity.compare_rank (a b : Severity) :
    compare b.rank a.rank = compare (gravestFirst.idxOf a) (gravestFirst.idxOf b) := by
  cases a <;> cases b <;> decide

theorem then_ne_gt_iff {first second : Ordering} :
    first.then second ≠ .gt ↔ first = .lt ∨ first = .eq ∧ second ≠ .gt := by
  cases first <;> simp

namespace Report

theorem compareText_eq_compare (a b : String) : compareText a b = compare a b :=
  (LinearOrder.compare_eq_compareOfLessAndEq a b).symm

theorem byKey_compareFindings :
    ByKey (fun a b => compareFindings a b != .gt) Finding.standing := by
  intro a b
  rw [bne_iff_ne, compareFindings, Severity.compare_rank, compareText_eq_compare,
    compareText_eq_compare]
  simp only [then_ne_gt_iff, compare_lt_iff_lt, compare_eq_iff_eq, compare_le_iff_le, ne_eq,
    Finding.standing, Prod.Lex.toLex_le_toLex]

/-! ## What is shown -/

theorem inOrder_ranked (report : Report) : InOrder report.findings report.ranked where
  perm := List.mergeSort_perm _ _
  pairwise := byKey_compareFindings.pairwise_mergeSort _
  stable := byKey_compareFindings.filter_mergeSort _

/-- What is shown leads the ranking, and the limit tells how much of it is shown or left out. -/
theorem exists_topFindings_append (report : Report) (limit : Int) :
    ∃ others, report.topFindings limit ++ others = report.ranked ∧
      (0 ≤ limit → ((report.topFindings limit).length : Int) =
        min limit report.findings.length) ∧
      (limit < 0 → (others.length : Int) = min (-limit) report.findings.length) := by
  have hlength := report.inOrder_ranked.perm.length_eq
  unfold topFindings
  dsimp only
  split
  · refine ⟨_, List.take_append_drop _ _, fun _ => ?_, fun _ => by omega⟩
    rw [List.length_take]
    omega
  · refine ⟨_, List.take_append_drop _ _, fun _ => by omega, fun _ => ?_⟩
    rw [List.length_drop]
    omega

/-- Findings that differ in what they are ordered by are shown alike, whatever order they come
in. -/
theorem topFindings_eq_of_perm {report other : Report}
    (hperm : other.findings.Perm report.findings)
    (hdistinct : (report.findings.map Finding.standing).Nodup) (limit : Int) :
    other.topFindings limit = report.topFindings limit := by
  have hranked : other.ranked = report.ranked :=
    (byKey_compareFindings.mergeSort_eq_of_perm hperm.symm hdistinct).symm
  unfold topFindings
  rw [hranked]

/-- An overview shows the findings that come first in their order, as many as the limit says, or all
but as many as a negative one says. None that it leaves out is worse than one that it shows. Where
no two findings share severity, file, line and identifier, the order they come in does not
matter. -/
theorem no_finding_left_out_is_worse_than_one_shown (report : Report) :
    ∃ sorted, InOrder report.findings sorted ∧ ∀ limit : Int,
      let shown := report.topFindings limit
      ∃ others, shown ++ others = sorted ∧
        (0 ≤ limit → (shown.length : Int) = min limit report.findings.length) ∧
        (limit < 0 → (others.length : Int) = min (-limit) report.findings.length) ∧
        shown.Subperm report.findings ∧
        shown.Pairwise (fun a b => a.standing ≤ b.standing) ∧
        (∀ finding ∈ shown, ∀ other ∈ others, ¬other.standing < finding.standing) ∧
        ((report.findings.Pairwise fun a b => ¬(a.severity = b.severity ∧
            a.location.file.getD "" = b.location.file.getD "" ∧
            a.location.line = b.location.line ∧ a.id = b.id)) →
          ∀ another : Report, another.findings.Perm report.findings →
            another.topFindings limit = shown) := by
  have hranked := report.inOrder_ranked
  refine ⟨report.ranked, hranked, fun limit => ?_⟩
  obtain ⟨others, happend, hshown, hothers⟩ := report.exists_topFindings_append limit
  obtain ⟨hsorted, -, hworse⟩ := List.pairwise_append.1 (happend ▸ hranked.pairwise)
  refine ⟨others, happend, hshown, hothers, ?_, hsorted, ?_, ?_⟩
  · have hsublist : (report.topFindings limit).Sublist report.ranked :=
      happend ▸ List.sublist_append_left _ _
    exact hsublist.subperm.trans hranked.perm.subperm
  · exact fun finding hfinding other hother => not_lt_of_ge (hworse finding hfinding other hother)
  · intro hdistinct another hperm
    simp only [← Finding.standing_eq_iff] at hdistinct
    exact topFindings_eq_of_perm hperm (List.pairwise_map.2 hdistinct) limit

end Report

end SourceAudit
