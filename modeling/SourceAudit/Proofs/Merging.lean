-- Merging reports. It does not matter in which groups reports are merged; the counts of assembled
-- parts add up, and the worst part decides the verdict, so counts and verdict do not depend on the
-- order of the parts.

import SourceAudit.Proofs.Verdicts
import Mathlib.Algebra.Ring.Int.Defs
import Mathlib.Data.List.Basic

namespace SourceAudit.Report

variable {report : Report} {parts : List Report}

/-! ## What a merged report holds -/

theorem merge_assembled (reports : List Report) : (merge reports).Assembled :=
  ⟨_, rfl⟩

theorem findings_merge (reports : List Report) :
    (merge reports).findings =
      reports.flatMap fun report => report.findings.filter (!·.isPlaceholder) :=
  List.filter_flatMap

/-- Merging in groups first gives the same. -/
theorem merge_map_merge (groups : List (List Report)) :
    merge (groups.map merge) = merge groups.flatten := by
  apply (merge_assembled _).eq_of_findings_eq (merge_assembled _)
  rw [findings_merge, findings_merge, List.flatMap_map, ← List.flatMap_id, List.flatMap_assoc]
  congr 1
  funext group
  rw [findings_merge, List.filter_flatMap]
  simp only [List.filter_filter, Bool.and_self, id_eq]

theorem Assembled.filter_findings (h : report.Assembled) :
    report.findings.filter (!·.isPlaceholder) = report.findings := by
  obtain ⟨findings, rfl⟩ := h
  unfold assemble
  simp only [List.filter_filter, Bool.and_self]

theorem Assembled.merge_singleton (h : report.Assembled) : merge [report] = report := by
  apply (merge_assembled _).eq_of_findings_eq h
  rw [findings_merge, List.flatMap_singleton, h.filter_findings]

/-! ## Counts -/

theorem Assembled.count_eq (h : report.Assembled) (severity : Severity) :
    report.summary.count severity = report.findings.countP (·.severity = severity) := by
  obtain ⟨findings, rfl⟩ := h
  exact (assemble_covers findings).count_eq severity

section Parts

variable (hparts : ∀ part ∈ parts, part.Assembled)
include hparts

theorem findings_merge_of_assembled : (merge parts).findings = parts.flatMap (·.findings) := by
  rw [findings_merge]
  exact List.flatMap_congr fun part hpart => (hparts part hpart).filter_findings

theorem count_merge (severity : Severity) :
    (merge parts).summary.count severity = (parts.map (·.summary.count severity)).sum := by
  rw [(merge_assembled parts).count_eq, findings_merge_of_assembled hparts]
  induction parts with
  | nil => rfl
  | cons part rest ih =>
    obtain ⟨hpart, hrest⟩ := List.forall_mem_cons.1 hparts
    rw [List.flatMap_cons, List.countP_append, List.map_cons, List.sum_cons, hpart.count_eq,
      ← ih hrest]
    push_cast
    rfl

/-! ## Verdicts -/

theorem exitCode_merge_le_iff {threshold : Severity} {n : Nat} :
    (merge parts).exitCode threshold ≤ n ↔ ∀ part ∈ parts, part.exitCode threshold ≤ n := by
  rw [(merge_assembled parts).exitCode_le_iff, findings_merge_of_assembled hparts]
  constructor
  · intro h part hpart
    rw [(hparts part hpart).exitCode_le_iff]
    exact fun finding hfinding => h finding (List.mem_flatMap.2 ⟨part, hpart, hfinding⟩)
  · intro h finding hfinding
    obtain ⟨part, hpart, hfinding⟩ := List.mem_flatMap.1 hfinding
    exact (hparts part hpart).exitCode_le_iff.1 (h part hpart) finding hfinding

end Parts

theorem max?_getD_le_iff {numbers : List Nat} {n : Nat} :
    numbers.max?.getD 0 ≤ n ↔ ∀ number ∈ numbers, number ≤ n := by
  cases hmax : numbers.max? with
  | none => simp [List.max?_eq_none_iff.1 hmax]
  | some greatest => exact List.max?_le_iff hmax

theorem passed_iff {threshold : Severity} :
    report.passed threshold = true ↔ report.exitCode threshold ≤ 0 := by
  unfold passed
  rw [beq_iff_eq, Nat.le_zero]

/-! ## Order -/

theorem findings_merge_perm {others : List Report} (h : parts.Perm others) :
    (merge parts).findings.Perm (merge others).findings := by
  rw [findings_merge, findings_merge]
  exact h.flatMap_right _

theorem summary_merge_perm {others : List Report} (h : parts.Perm others) :
    (merge others).summary = (merge parts).summary := by
  apply Summary.eq_of_count_eq
  intro severity
  rw [(merge_assembled others).count_eq, (merge_assembled parts).count_eq,
    (findings_merge_perm h).countP_eq]

theorem exitCode_merge_perm {others : List Report} (h : parts.Perm others) (threshold : Severity) :
    (merge others).exitCode threshold = (merge parts).exitCode threshold := by
  have hle : ∀ n, (merge others).exitCode threshold ≤ n ↔ (merge parts).exitCode threshold ≤ n := by
    intro n
    rw [(merge_assembled others).exitCode_le_iff, (merge_assembled parts).exitCode_le_iff]
    simp only [(findings_merge_perm h).mem_iff]
  exact Nat.le_antisymm ((hle _).2 (Nat.le_refl _)) ((hle _).1 (Nat.le_refl _))

/-! ## The law -/

/-- Merging merged reports is merging all of them at once, and merging nothing gives the empty
report. An assembled report alone is merged into itself; the counts of assembled parts add up; the
merged verdict is the worst of theirs, and the whole passes just when each part does. Counts and
verdict are the same for every order of the parts. -/
theorem the_worst_part_decides_on_a_merged_report (xs ys : List Report) {parts : List Report}
    (hparts : ∀ part ∈ parts, part.Assembled) (threshold : Severity) :
    merge [merge xs, merge ys] = merge (xs ++ ys) ∧ merge [] = {} ∧
      (∀ part ∈ parts, merge [part] = part) ∧
      (∀ severity,
        (merge parts).summary.count severity = (parts.map (·.summary.count severity)).sum) ∧
      (merge parts).exitCode threshold = (parts.map (·.exitCode threshold)).max?.getD 0 ∧
      ((merge parts).passed threshold = true ↔ ∀ part ∈ parts, part.passed threshold = true) ∧
      ∀ others, parts.Perm others →
        (merge others).summary = (merge parts).summary ∧
          (merge others).exitCode threshold = (merge parts).exitCode threshold := by
  refine ⟨?_, rfl, fun part hpart => (hparts part hpart).merge_singleton, count_merge hparts,
    ?_, ?_, fun others h => ⟨summary_merge_perm h, exitCode_merge_perm h threshold⟩⟩
  · simpa using merge_map_merge [xs, ys]
  · -- both numbers have the same upper bounds
    have hle : ∀ n, (merge parts).exitCode threshold ≤ n ↔
        (parts.map (·.exitCode threshold)).max?.getD 0 ≤ n := by
      intro n
      rw [exitCode_merge_le_iff hparts, max?_getD_le_iff, List.forall_mem_map]
    exact Nat.le_antisymm ((hle _).2 (Nat.le_refl _)) ((hle _).1 (Nat.le_refl _))
  · simp only [passed_iff, exitCode_merge_le_iff hparts]

/-- Three parts: a low finding, a high one with a record of a clean file, and nothing. -/
def threeParts : List Report :=
  let finding (type : WideText) (severity : Severity) : Finding :=
    { id := "", rule := "", type := type, severity := severity, location := { line := 1 },
      description := "", matchedCode := "" }
  [assemble [finding "Leak" .low],
    assemble [finding Finding.noIssuesType .critical, finding "Leak" .high], assemble []]

theorem the_high_part_decides_on_three_parts :
    (∀ part ∈ threeParts, part.Assembled) ∧
      (merge threeParts).summary = { high := 1, low := 1 } ∧
      threeParts.map (·.exitCode .medium) = [0, 2, 0] ∧
      (merge threeParts).exitCode .medium = 2 ∧
      (merge threeParts.reverse).exitCode .medium = 2 := by
  have hparts : ∀ part ∈ threeParts, part.Assembled := by
    simp [threeParts, Assembled]
  obtain ⟨-, -, -, hcounts, hcode, -, horder⟩ :=
    the_worst_part_decides_on_a_merged_report [] [] hparts .medium
  have hcode : (merge threeParts).exitCode .medium = 2 := by
    rw [hcode]
    decide
  refine ⟨hparts, Summary.eq_of_count_eq fun severity => ?_, by decide, hcode, ?_⟩
  · rw [hcounts]
    cases severity <;> decide
  · rw [(horder _ (List.reverse_perm _).symm).2, hcode]

end SourceAudit.Report
