-- Sorting by a key. Members come in the order of their keys, and those with the same key as they
-- came. So members with keys of their own are sorted alike, whatever order they come in.

import Mathlib.Data.List.Sort

namespace SourceAudit

variable {α κ : Type} [LinearOrder κ] {le : α → α → Bool} {key : α → κ}

/-- Members are compared by a key. -/
def ByKey (le : α → α → Bool) (key : α → κ) : Prop :=
  ∀ a b, le a b = true ↔ key a ≤ key b

namespace ByKey

variable (h : ByKey le key)
include h

theorem trans (a b c : α) (hab : le a b = true) (hbc : le b c = true) : le a c = true :=
  (h a c).2 (((h a b).1 hab).trans ((h b c).1 hbc))

theorem total (a b : α) : (le a b || le b a) = true := by
  rw [Bool.or_eq_true, h, h]
  exact le_total (key a) (key b)

theorem pairwise_mergeSort (xs : List α) :
    (xs.mergeSort le).Pairwise fun a b => key a ≤ key b :=
  (List.pairwise_mergeSort h.trans h.total xs).imp fun {a b} => (h a b).1

/-- Sorting keeps the order of the members with one key. -/
theorem filter_mergeSort (xs : List α) (k : κ) :
    (xs.mergeSort le).filter (key · = k) = xs.filter (key · = k) := by
  have hle : (xs.filter (key · = k)).Pairwise fun a b => le a b = true := by
    apply List.pairwise_of_forall_mem_list
    intro a ha b hb
    have hak : key a = k := by simpa using (List.mem_filter.1 ha).2
    have hbk : key b = k := by simpa using (List.mem_filter.1 hb).2
    rw [h, hak, hbk]
  have hsub := List.sublist_mergeSort h.trans h.total hle List.filter_sublist
  have hsub' := hsub.filter (key · = k)
  rw [List.filter_filter] at hsub'
  simp only [Bool.and_self] at hsub'
  exact (hsub'.eq_of_length ((List.mergeSort_perm xs le).filter _).length_eq.symm).symm

/-- Members with keys of their own are sorted alike, whatever order they come in. -/
theorem mergeSort_eq_of_perm {xs ys : List α} (hperm : xs.Perm ys) (hkeys : (xs.map key).Nodup) :
    xs.mergeSort le = ys.mergeSort le := by
  have hsorted := (List.mergeSort_perm xs le).trans (hperm.trans (List.mergeSort_perm ys le).symm)
  apply hsorted.eq_of_pairwise _ (h.pairwise_mergeSort xs) (h.pairwise_mergeSort ys)
  intro a b ha hb hab hba
  have hb' := hperm.mem_iff.2 (List.mem_mergeSort.1 hb)
  exact List.inj_on_of_nodup_map hkeys (List.mem_mergeSort.1 ha) hb' (le_antisymm hab hba)

end ByKey

end SourceAudit
