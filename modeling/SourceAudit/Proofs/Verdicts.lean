-- Counts and verdicts of assembled reports. The counts are those of the findings that a report
-- holds, and the verdict is the worst that any of its findings makes alone.

import SourceAudit.Report.Basic
import Mathlib.Data.List.Induction

namespace SourceAudit

/-! ## Counts -/

namespace Summary

/-- Summaries with the same counts are the same. -/
theorem eq_of_count_eq {a b : Summary} (h : ∀ severity, a.count severity = b.count severity) :
    a = b := by
  obtain ⟨critical, high, medium, low⟩ := a
  obtain ⟨critical', high', medium', low'⟩ := b
  obtain rfl : critical = critical' := h .critical
  obtain rfl : high = high' := h .high
  obtain rfl : medium = medium' := h .medium
  obtain rfl : low = low' := h .low
  rfl

theorem count_increment (summary : Summary) (severity other : Severity) :
    (summary.increment severity).count other =
      summary.count other + if severity = other then 1 else 0 := by
  cases severity <;> cases other <;> simp [increment, count]

theorem total_increment (summary : Summary) (severity : Severity) :
    (summary.increment severity).total = summary.total + 1 := by
  cases severity <;> simp [increment, total, Severity.gravestFirst, count] <;> omega

theorem ofFindings_concat (findings : List Finding) (finding : Finding) :
    ofFindings (findings ++ [finding]) =
      if finding.isPlaceholder then ofFindings findings
      else (ofFindings findings).increment finding.severity := by
  unfold ofFindings
  rw [List.foldl_append]
  rfl

/-- Each count is that of the findings of its severity, clean files aside. -/
theorem count_ofFindings (findings : List Finding) (severity : Severity) :
    (ofFindings findings).count severity =
      (findings.filter (!·.isPlaceholder)).countP (·.severity = severity) := by
  induction findings using List.reverseRecOn with
  | nil => cases severity <;> rfl
  | append_singleton rest finding ih =>
    rw [ofFindings_concat, List.filter_append, List.countP_append]
    by_cases hclean : finding.isPlaceholder
    · simp [hclean, ih]
    · by_cases hsame : finding.severity = severity <;> simp [hclean, hsame, ih, count_increment]

/-- The counts together are as many as the findings, clean files aside. -/
theorem total_ofFindings (findings : List Finding) :
    (ofFindings findings).total = (findings.filter (!·.isPlaceholder)).length := by
  induction findings using List.reverseRecOn with
  | nil => rfl
  | append_singleton rest finding ih =>
    rw [ofFindings_concat, List.filter_append, List.length_append]
    by_cases hclean : finding.isPlaceholder
    · simp [hclean, ih]
    · simp [hclean, ih, total_increment]

end Summary

/-! ## Assembled reports -/

namespace Report

/-- A report that was made from findings, and not by hand. -/
def Assembled (report : Report) : Prop :=
  ∃ findings, report = assemble findings

/-- What a report is that was made from findings: it holds all of them but the records that only
say that a file is clean, in their order, and its counts are those of what it holds as well as those
of all that was given. -/
structure Covers (report : Report) (findings : List Finding) : Prop where
  no_placeholder : ∀ finding ∈ report.findings, finding.type ≠ Finding.noIssuesType
  count_eq : ∀ severity,
    report.summary.count severity = report.findings.countP (·.severity = severity)
  total_eq : report.summary.total = report.findings.length
  findings_eq : report.findings = findings.filter fun finding => finding.type ≠ Finding.noIssuesType
  summary_eq : report.summary = Summary.ofFindings findings

theorem assemble_covers (findings : List Finding) : (assemble findings).Covers findings where
  no_placeholder finding h := by
    have hkept := (List.mem_filter.1 h).2
    simpa [Finding.isPlaceholder] using hkept
  count_eq severity := by
    unfold assemble
    rw [Summary.count_ofFindings, List.filter_filter]
    simp
  total_eq := by
    unfold assemble
    rw [Summary.total_ofFindings, List.filter_filter]
    simp
  findings_eq := by
    unfold assemble
    simp only [Finding.isPlaceholder, ne_eq, decide_not, beq_eq_decide]
  summary_eq := by
    apply Summary.eq_of_count_eq
    intro severity
    unfold assemble
    rw [Summary.count_ofFindings, Summary.count_ofFindings, List.filter_filter]
    simp

/-- Assembled reports with the same findings are the same. -/
theorem Assembled.eq_of_findings_eq {a b : Report} (ha : a.Assembled) (hb : b.Assembled)
    (h : a.findings = b.findings) : a = b := by
  obtain ⟨first, rfl⟩ := ha
  obtain ⟨second, rfl⟩ := hb
  unfold assemble at h ⊢
  dsimp only at h
  rw [h]

end Report

/-! ## What a severity makes of the verdict -/

namespace Severity

/-- The verdict on a single finding of a severity: nothing below the threshold, and two from the
second highest severity on. -/
def verdict (threshold severity : Severity) : Nat :=
  if threshold ≤ severity then if high ≤ severity then 2 else 1 else 0

theorem verdict_mono (threshold : Severity) {a b : Severity} (h : a ≤ b) :
    threshold.verdict a ≤ threshold.verdict b := by
  revert h
  cases threshold <;> cases a <;> cases b <;> decide

theorem verdict_anti {threshold raised : Severity} (h : threshold ≤ raised) (severity : Severity) :
    raised.verdict severity ≤ threshold.verdict severity := by
  revert h
  cases threshold <;> cases raised <;> cases severity <;> decide

theorem verdict_le_two (threshold severity : Severity) : threshold.verdict severity ≤ 2 := by
  cases threshold <;> cases severity <;> decide

theorem verdict_le_zero_iff (threshold severity : Severity) :
    threshold.verdict severity ≤ 0 ↔ ¬ threshold ≤ severity := by
  cases threshold <;> cases severity <;> decide

theorem verdict_le_one_iff (threshold severity : Severity) :
    threshold.verdict severity ≤ 1 ↔ ¬ (threshold ≤ severity ∧ high ≤ severity) := by
  cases threshold <;> cases severity <;> decide

theorem high_le_iff (severity : Severity) :
    high ≤ severity ↔ severity = high ∨ severity = critical := by
  cases severity <;> decide

theorem gravestFirst_pairwise : gravestFirst.Pairwise fun a b => b ≤ a := by
  decide

theorem mem_gravestFirst (severity : Severity) : severity ∈ gravestFirst := by
  cases severity <;> decide

end Severity

/-! ## Verdicts -/

namespace Report

variable {report : Report}

theorem mem_blocking {threshold severity : Severity} :
    severity ∈ report.blocking threshold ↔
      threshold ≤ severity ∧ report.summary.count severity ≠ 0 := by
  simp [blocking, Severity.mem_gravestFirst]

/-- The verdict on a report is the worst verdict on a severity that has been counted. -/
theorem exitCode_le_iff_of_count {threshold : Severity} {n : Nat} :
    report.exitCode threshold ≤ n ↔
      ∀ severity, report.summary.count severity ≠ 0 → threshold.verdict severity ≤ n := by
  have horder : (report.blocking threshold).Pairwise fun a b => b ≤ a :=
    Severity.gravestFirst_pairwise.filter _
  have hmem := @mem_blocking report threshold
  unfold exitCode
  cases hblocking : report.blocking threshold with
  | nil =>
    rw [hblocking] at hmem
    refine ⟨fun _ severity hcount => ?_, fun _ => Nat.zero_le n⟩
    have hbelow : ¬ threshold ≤ severity := fun h => by simpa using hmem.2 ⟨h, hcount⟩
    simp [Severity.verdict, hbelow]
  | cons gravest rest =>
    rw [hblocking] at hmem horder
    obtain ⟨habove, hcount⟩ := hmem.1 (List.mem_cons_self (a := gravest))
    have hverdict : (if Severity.high ≤ gravest then 2 else 1) = threshold.verdict gravest := by
      simp [Severity.verdict, habove]
    dsimp only
    rw [hverdict]
    refine ⟨fun h severity hother => ?_, fun h => h gravest hcount⟩
    by_cases hreached : threshold ≤ severity
    · -- the gravest severity comes first
      rcases List.mem_cons.1 (hmem.2 ⟨hreached, hother⟩) with rfl | hrest
      · exact h
      · have hle := (List.pairwise_cons.1 horder).1 severity hrest
        exact Nat.le_trans (Severity.verdict_mono threshold hle) h
    · simp [Severity.verdict, hreached]

/-- The verdict on an assembled report is the worst verdict on a finding in it. -/
theorem Assembled.exitCode_le_iff (h : report.Assembled) {threshold : Severity} {n : Nat} :
    report.exitCode threshold ≤ n ↔
      ∀ finding ∈ report.findings, threshold.verdict finding.severity ≤ n := by
  obtain ⟨findings, rfl⟩ := h
  rw [exitCode_le_iff_of_count]
  constructor
  · intro h finding hmem
    apply h
    rw [(assemble_covers findings).count_eq, Int.natCast_ne_zero, ← Nat.pos_iff_ne_zero,
      List.countP_pos_iff]
    exact ⟨finding, hmem, by simp⟩
  · intro h severity hcount
    rw [(assemble_covers findings).count_eq, Int.natCast_ne_zero, ← Nat.pos_iff_ne_zero,
      List.countP_pos_iff] at hcount
    obtain ⟨finding, hmem, hseverity⟩ := hcount
    have hseverity : finding.severity = severity := by simpa using hseverity
    exact hseverity ▸ h finding hmem

theorem exitCode_le_two (report : Report) (threshold : Severity) :
    report.exitCode threshold ≤ 2 :=
  exitCode_le_iff_of_count.2 fun severity _ => threshold.verdict_le_two severity

theorem Assembled.exitCode_eq_zero_iff (h : report.Assembled) {threshold : Severity} :
    report.exitCode threshold = 0 ↔
      ∀ finding ∈ report.findings, ¬ threshold ≤ finding.severity := by
  rw [← Nat.le_zero, h.exitCode_le_iff]
  simp only [Severity.verdict_le_zero_iff]

theorem Assembled.exitCode_eq_two_iff (h : report.Assembled) {threshold : Severity} :
    report.exitCode threshold = 2 ↔
      ∃ finding ∈ report.findings, threshold ≤ finding.severity ∧ .high ≤ finding.severity := by
  have hle := report.exitCode_le_two threshold
  have htwo : report.exitCode threshold = 2 ↔ ¬ report.exitCode threshold ≤ 1 := by omega
  rw [htwo, h.exitCode_le_iff]
  simp only [Severity.verdict_le_one_iff, not_forall, Decidable.not_not, exists_prop]

theorem Assembled.exitCode_eq_one_iff (h : report.Assembled) {threshold : Severity} :
    report.exitCode threshold = 1 ↔
      (∃ finding ∈ report.findings, threshold ≤ finding.severity) ∧
        ∀ finding ∈ report.findings, threshold ≤ finding.severity →
          finding.severity ≠ .high ∧ finding.severity ≠ .critical := by
  have hone : report.exitCode threshold = 1 ↔
      ¬ report.exitCode threshold ≤ 0 ∧ report.exitCode threshold ≤ 1 := by omega
  rw [hone, h.exitCode_le_iff, h.exitCode_le_iff]
  simp only [Severity.verdict_le_zero_iff, Severity.verdict_le_one_iff, Severity.high_le_iff,
    not_forall, Decidable.not_not, exists_prop, not_and, not_or]

/-- A higher threshold never makes the verdict worse. -/
theorem exitCode_anti {threshold raised : Severity} (h : threshold ≤ raised) :
    report.exitCode raised ≤ report.exitCode threshold :=
  exitCode_le_iff_of_count.2 fun severity hcount =>
    Nat.le_trans (Severity.verdict_anti h severity)
      (exitCode_le_iff_of_count.1 (Nat.le_refl _) severity hcount)

end Report

end SourceAudit
