-- One match for each rule and line. Sorting and collapsing keeps, of all matches for one finding,
-- one that is furthest left, and what is kept comes in the order of lines and rules. So the result
-- is known from its members alone.

import SourceAudit.Aggregate
import SourceAudit.Proofs.SortedByKey
import Mathlib.Data.Prod.Lex

namespace SourceAudit.Aggregate

/-! ## The order of matches -/

/-- What a match is sorted by: its line, and on a line the place of its rule. -/
def Placed.key (p : Placed) : Int ×ₗ Nat :=
  toLex (p.raw.line, p.position)

theorem Placed.byKey : ByKey Placed.le Placed.key := by
  intro a b
  simp only [le, key, Prod.Lex.toLex_le_toLex]
  split
  · next h => simp [h]
  · next h =>
    simp only [decide_eq_true_eq, h, false_and, or_false]
    exact Int.le_iff_lt_or_eq.trans (by simp [h])

theorem Placed.sameFinding_iff {a b : Placed} : a.sameFinding b = true ↔ a.key = b.key := by
  simp [sameFinding, key]

/-! ## What is kept -/

/-- The choice between two matches for one finding is one of them, and no further right than
either. -/
theorem Placed.leftmost_cases (a b : Placed) :
    (a.leftmost b = a ∨ a.leftmost b = b) ∧
      (a.leftmost b).raw.place ≤ a.raw.place ∧ (a.leftmost b).raw.place ≤ b.raw.place := by
  unfold leftmost
  split
  · next h => exact ⟨Or.inr rfl, by omega, le_refl _⟩
  · next h => exact ⟨Or.inl rfl, le_refl _, by omega⟩

theorem mem_of_mem_collapseFrom {kept : Placed} {rest : List Placed} {p : Placed}
    (h : p ∈ collapseFrom kept rest) : p = kept ∨ p ∈ rest := by
  induction rest generalizing kept with
  | nil => simpa [collapseFrom] using h
  | cons next rest ih =>
    unfold collapseFrom at h
    split at h
    · rcases ih h with heq | h
      · rcases (kept.leftmost_cases next).1 with h | h
        · exact Or.inl (heq.trans h)
        · exact Or.inr (heq.trans h ▸ List.mem_cons_self)
      · exact Or.inr (List.mem_cons_of_mem _ h)
    · rcases List.mem_cons.1 h with h | h
      · exact Or.inl h
      · rcases ih h with rfl | h
        · exact Or.inr List.mem_cons_self
        · exact Or.inr (List.mem_cons_of_mem _ h)

/-- Every match has one of its finding among the kept ones that is no further right. -/
theorem exists_mem_collapseFrom {kept : Placed} {rest : List Placed} {q : Placed}
    (h : q ∈ kept :: rest) :
    ∃ p ∈ collapseFrom kept rest, p.key = q.key ∧ p.raw.place ≤ q.raw.place := by
  induction rest generalizing kept q with
  | nil =>
    obtain rfl : q = kept := by simpa using h
    exact ⟨q, by simp [collapseFrom], rfl, le_refl _⟩
  | cons next rest ih =>
    unfold collapseFrom
    split
    · next hsame =>
      -- whichever of the two is dropped, the one that stays covers it
      have hkey : kept.key = next.key := Placed.sameFinding_iff.1 hsame
      obtain ⟨hone, hleft, hright⟩ := kept.leftmost_cases next
      have hchosen : (kept.leftmost next).key = next.key := by
        rcases hone with h | h <;> rw [h]
        exact hkey
      obtain ⟨p, hp, hpk, hpl⟩ := ih (List.mem_cons_self (a := kept.leftmost next))
      rcases List.mem_cons.1 h with rfl | h
      · exact ⟨p, hp, by rw [hpk, hchosen, hkey], hpl.trans hleft⟩
      · rcases List.mem_cons.1 h with rfl | h
        · exact ⟨p, hp, by rw [hpk, hchosen], hpl.trans hright⟩
        · exact ih (List.mem_cons_of_mem _ h)
    · rcases List.mem_cons.1 h with rfl | h
      · exact ⟨q, List.mem_cons_self, rfl, le_refl _⟩
      · obtain ⟨p, hp, hpq⟩ := ih h
        exact ⟨p, List.mem_cons_of_mem _ hp, hpq⟩

/-- From matches in order, what is kept stands in strict order. -/
theorem collapseFrom_pairwise {kept : Placed} {rest : List Placed}
    (h : (kept :: rest).Pairwise fun a b => a.key ≤ b.key) :
    (collapseFrom kept rest).Pairwise fun a b => a.key < b.key := by
  induction rest generalizing kept with
  | nil => simp [collapseFrom]
  | cons next rest ih =>
    obtain ⟨hkept, hrest⟩ := List.pairwise_cons.1 h
    obtain ⟨hnext, hrest'⟩ := List.pairwise_cons.1 hrest
    unfold collapseFrom
    split
    · next hsame =>
      apply ih
      rw [List.pairwise_cons]
      refine ⟨fun q hq => ?_, hrest'⟩
      rcases (kept.leftmost_cases next).1 with h | h <;> rw [h]
      · exact hkept q (List.mem_cons_of_mem _ hq)
      · exact hnext q hq
    · next hsame =>
      rw [List.pairwise_cons]
      refine ⟨fun q hq => ?_, ih hrest⟩
      have hne : kept.key ≠ next.key := fun heq => hsame (Placed.sameFinding_iff.2 heq)
      have hlt : kept.key < next.key := lt_of_le_of_ne (hkept next List.mem_cons_self) hne
      rcases mem_of_mem_collapseFrom hq with rfl | hq
      · exact hlt
      · exact lt_of_lt_of_le hlt (hnext q hq)

/-! ## Sorting and collapsing -/

/-- One match for each finding, from matches in any order. -/
def chosen (ps : List Placed) : List Placed :=
  collapse (ps.mergeSort Placed.le)

theorem chosen_pairwise (ps : List Placed) :
    (chosen ps).Pairwise fun a b => a.key < b.key := by
  have hsorted := Placed.byKey.pairwise_mergeSort ps
  unfold chosen collapse
  split
  · exact .nil
  · next first rest heq => exact collapseFrom_pairwise (heq ▸ hsorted)

theorem mem_of_mem_chosen {ps : List Placed} {p : Placed} (h : p ∈ chosen ps) : p ∈ ps := by
  rw [← (List.mergeSort_perm ps Placed.le).mem_iff]
  unfold chosen collapse at h
  split at h
  · cases h
  · next first rest heq =>
    rw [heq, List.mem_cons]
    exact mem_of_mem_collapseFrom h

theorem exists_mem_chosen {ps : List Placed} {q : Placed} (h : q ∈ ps) :
    ∃ p ∈ chosen ps, p.key = q.key ∧ p.raw.place ≤ q.raw.place := by
  rw [← (List.mergeSort_perm ps Placed.le).mem_iff] at h
  unfold chosen collapse
  split
  · next heq => rw [heq] at h; cases h
  · next first rest heq => exact exists_mem_collapseFrom (heq ▸ h)

theorem eq_of_key_eq {ps : List Placed} (h : ps.Pairwise fun a b => a.key < b.key) {p q : Placed}
    (hp : p ∈ ps) (hq : q ∈ ps) (hkey : p.key = q.key) : p = q := by
  have hnodup : (ps.map Placed.key).Nodup :=
    (List.pairwise_map.2 h).imp ne_of_lt
  exact List.inj_on_of_nodup_map hnodup hp hq hkey

/-- What is kept for a finding is no further right than any match for it. -/
theorem place_le_of_mem_chosen {ps : List Placed} {p q : Placed} (hp : p ∈ chosen ps)
    (hq : q ∈ ps) (hkey : p.key = q.key) : p.raw.place ≤ q.raw.place := by
  obtain ⟨p', hp', hkey', hle⟩ := exists_mem_chosen hq
  obtain rfl : p = p' := eq_of_key_eq (chosen_pairwise ps) hp hp' (hkey.trans hkey'.symm)
  exact hle

/-- Matches in strict order that are among all of them, and of which one covers each, are the ones
that are kept. -/
theorem chosen_eq {ps es : List Placed} (hsorted : es.Pairwise fun a b => a.key < b.key)
    (hsub : ∀ e ∈ es, e ∈ ps)
    (hcover : ∀ q ∈ ps, ∃ e ∈ es, e.key = q.key ∧ (e = q ∨ e.raw.place < q.raw.place)) :
    chosen ps = es := by
  have hmem : ∀ p ∈ chosen ps, p ∈ es := by
    intro p hp
    obtain ⟨e, he, hkey, heq | hlt⟩ := hcover p (mem_of_mem_chosen hp)
    · exact heq ▸ he
    · have := place_le_of_mem_chosen hp (hsub e he) hkey.symm
      omega
  have : Std.Irrefl fun a b : Placed => a.key < b.key := ⟨fun a => lt_irrefl a.key⟩
  have : Std.Antisymm fun a b : Placed => a.key < b.key :=
    ⟨fun a b hab hba => absurd hab (lt_asymm hba)⟩
  apply (chosen_pairwise ps).eq_of_mem_iff hsorted
  intro p
  refine ⟨hmem p, fun hp => ?_⟩
  obtain ⟨p', hp', hkey, _⟩ := exists_mem_chosen (hsub p hp)
  obtain rfl : p = p' := eq_of_key_eq hsorted hp (hmem p' hp') hkey.symm
  exact hp'

end SourceAudit.Aggregate
