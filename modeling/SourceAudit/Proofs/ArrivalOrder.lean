-- Matches that arrive in another order. Of the matches for one finding the first of the leftmost
-- is kept, where a missing column counts as the first one. So the order of arrival decides nothing
-- but whether a finding in the first column names it.

import SourceAudit.Proofs.AggregatedMatches
import Mathlib.Data.Int.ConditionallyCompleteOrder
import Mathlib.Data.List.MinMax
import Mathlib.Data.List.Sort
import Mathlib.Order.ConditionallyCompleteLattice.Basic

namespace SourceAudit

namespace Aggregate

/-! ## The first of the leftmost matches -/

theorem argmin_leftmost (kept next : Placed) (rest : List Placed) :
    (kept :: next :: rest).argmin (·.raw.place) =
      (kept.leftmost next :: rest).argmin (·.raw.place) := by
  unfold List.argmin Placed.leftmost
  simp only [List.foldl_cons, List.argAux]
  split <;> rfl

/-- Behind a match for one finding, in order, stand no more of them once another one begins. -/
theorem filter_key_eq_nil {kept next : Placed} {rest : List Placed} (hlt : kept.key < next.key)
    (hnext : ∀ q ∈ rest, next.key ≤ q.key) : (next :: rest).filter (·.key = kept.key) = [] := by
  rw [List.filter_eq_nil_iff]
  intro q hq
  have hle : next.key ≤ q.key := by
    rcases List.mem_cons.1 hq with rfl | hq
    · exact le_refl _
    · exact hnext q hq
  have hne : q.key ≠ kept.key := fun heq => absurd hlt (not_lt_of_ge (heq ▸ hle))
  simpa using hne

/-- From matches in order, what is kept for a finding is the first of its leftmost matches. -/
theorem mem_collapseFrom_iff {kept : Placed} {rest : List Placed} {p : Placed}
    (h : (kept :: rest).Pairwise fun a b => a.key ≤ b.key) :
    p ∈ collapseFrom kept rest ↔
      ((kept :: rest).filter (·.key = p.key)).argmin (·.raw.place) = some p := by
  induction rest generalizing kept with
  | nil =>
    by_cases hkey : kept.key = p.key
    · simp [collapseFrom, hkey, eq_comm]
    · have hne : p ≠ kept := fun heq => hkey (by rw [heq])
      simp [collapseFrom, hkey, hne]
  | cons next rest ih =>
    obtain ⟨hkept, hrest⟩ := List.pairwise_cons.1 h
    obtain ⟨hnext, hrest'⟩ := List.pairwise_cons.1 hrest
    unfold collapseFrom
    split
    · next hsame =>
      have hkey : kept.key = next.key := Placed.sameFinding_iff.1 hsame
      have hchosen : (kept.leftmost next).key = next.key := by
        rcases (kept.leftmost_cases next).1 with h | h <;> rw [h]
        exact hkey
      have hsorted : (kept.leftmost next :: rest).Pairwise fun a b => a.key ≤ b.key := by
        rw [List.pairwise_cons, hchosen]
        exact ⟨hnext, hrest'⟩
      rw [ih hsorted]
      by_cases hp : next.key = p.key
      · simp only [List.filter_cons, hkey, hchosen, hp, decide_true, if_true, argmin_leftmost]
      · simp only [List.filter_cons, hkey, hchosen, hp, decide_false, Bool.false_eq_true, if_false]
    · next hsame =>
      have hne : kept.key ≠ next.key := fun heq => hsame (Placed.sameFinding_iff.2 heq)
      have hlt : kept.key < next.key := lt_of_le_of_ne (hkept next List.mem_cons_self) hne
      rw [List.mem_cons, ih hrest]
      by_cases hp : kept.key = p.key
      · have hnone := filter_key_eq_nil hlt hnext
        rw [hp] at hnone
        rw [hnone, List.filter_cons_of_pos (by simpa using hp), hnone]
        simp [eq_comm]
      · have hne' : p ≠ kept := fun heq => hp (by rw [heq])
        have hdrop : (kept :: next :: rest).filter (·.key = p.key) =
            (next :: rest).filter (·.key = p.key) :=
          List.filter_cons_of_neg (by simpa using hp)
        rw [hdrop]
        simp only [hne', false_or]

/-- Of the matches for one finding, the first of the leftmost is kept. -/
theorem mem_chosen_iff {ps : List Placed} {p : Placed} :
    p ∈ chosen ps ↔ (ps.filter (·.key = p.key)).argmin (·.raw.place) = some p := by
  rw [← Placed.byKey.filter_mergeSort]
  have hsorted := Placed.byKey.pairwise_mergeSort ps
  unfold chosen collapse
  split
  · next heq => simp [heq]
  · next first rest heq =>
    rw [heq] at hsorted ⊢
    exact mem_collapseFrom_iff hsorted

/-! ## Matches in another order -/

section Orders

variable {ps qs : List Placed} (hperm : ps.Perm qs)
include hperm

/-- Whatever the order, matches are kept for the same findings. -/
theorem map_key_chosen : (chosen ps).map Placed.key = (chosen qs).map Placed.key := by
  have hmem : ∀ ps : List Placed, ∀ key,
      key ∈ (chosen ps).map Placed.key ↔ key ∈ ps.map Placed.key := by
    intro ps key
    simp only [List.mem_map]
    constructor
    · rintro ⟨p, hp, rfl⟩
      exact ⟨p, mem_of_mem_chosen hp, rfl⟩
    · rintro ⟨q, hq, rfl⟩
      obtain ⟨p, hp, hkey, -⟩ := exists_mem_chosen hq
      exact ⟨p, hp, hkey⟩
  have hps : ((chosen ps).map Placed.key).Pairwise (· < ·) :=
    List.pairwise_map.2 (chosen_pairwise ps)
  have hqs : ((chosen qs).map Placed.key).Pairwise (· < ·) :=
    List.pairwise_map.2 (chosen_pairwise qs)
  apply hps.eq_of_mem_iff hqs
  intro key
  rw [hmem, hmem, (hperm.map Placed.key).mem_iff]

/-- What is kept looks the same where two leftmost matches for one finding look the same. -/
theorem map_chosen_eq {α : Type} {view : Placed → α}
    (hview : ∀ p ∈ ps, ∀ q ∈ ps, p.key = q.key → p.raw.place = q.raw.place →
      (∀ o ∈ ps, o.key = p.key → p.raw.place ≤ o.raw.place) → view p = view q) :
    (chosen ps).map view = (chosen qs).map view := by
  have hkeys := map_key_chosen hperm
  have hlength : (chosen ps).length = (chosen qs).length := by
    simpa using congrArg List.length hkeys
  apply List.ext_getElem (by simpa using hlength)
  intro i hi hi'
  rw [List.length_map] at hi hi'
  have hp := List.getElem_mem hi
  have hq := List.getElem_mem hi'
  have hkey : (chosen ps)[i].key = (chosen qs)[i].key := by
    have := List.getElem_of_eq hkeys (by simpa using hi)
    simpa using this
  have hleast : ∀ o ∈ ps, o.key = (chosen ps)[i].key → (chosen ps)[i].raw.place ≤ o.raw.place :=
    fun o ho hok => place_le_of_mem_chosen hp ho hok.symm
  have hplace : (chosen ps)[i].raw.place = (chosen qs)[i].raw.place := by
    apply le_antisymm
    · exact hleast _ (hperm.mem_iff.2 (mem_of_mem_chosen hq)) hkey.symm
    · exact place_le_of_mem_chosen hq (hperm.mem_iff.1 (mem_of_mem_chosen hp)) hkey.symm
  rw [List.getElem_map, List.getElem_map]
  exact hview _ (mem_of_mem_chosen hp) _ (hperm.mem_iff.2 (mem_of_mem_chosen hq)) hkey hplace hleast

end Orders

end Aggregate

/-! ## What comes of matches -/

/-- Why matches cannot be made into findings, whatever rule or line is at fault. -/
inductive AggregateFault.Kind where
  | unknownRule
  | unencodable
  | noSuchLine
  deriving DecidableEq, Repr

/-- The kind of a fault. -/
def AggregateFault.kind : AggregateFault → Kind
  | unknownRule _ => .unknownRule
  | unencodable _ => .unencodable
  | noSuchLine _ => .noSuchLine

/-- The finding with another column. -/
def Finding.withColumn (view : Option Int → Option Int) (finding : Finding) : Finding :=
  { finding with location := { finding.location with column := view finding.location.column } }

/-- A column, where a missing one is the first. -/
def filled (column : Option Int) : Option Int :=
  some (column.getD 0)

/-- Two matches for one finding are tied for its place: no match for it is further left than they
are. -/
def Tied (raws : List RawMatch) (a b : RawMatch) : Prop :=
  a ∈ raws ∧ b ∈ raws ∧ a.subject = b.subject ∧ a.place = b.place ∧
    ∀ c ∈ raws, c.subject = a.subject → a.place ≤ c.place

/-- Of two tied matches one names the first column, and one names none. -/
def Ambiguous (raws : List RawMatch) : Prop :=
  ∃ a b, Tied raws a b ∧ a.column = none ∧ b.column = some 0

namespace Aggregate

/-- What findings take from a match, its column through a view. -/
def Placed.seen (view : Option Int → Option Int) (p : Placed) : Placed where
  raw := { rule := "", line := p.raw.line, column := view p.raw.column, text := "" }
  rule := p.rule
  position := 0

theorem findingIn_seen (view : Option Int → Option Int) (lines : Array String) (seed : String)
    (n : Nat) (p : Placed) :
    (p.seen view).findingIn lines seed n =
      (p.findingIn lines seed n).map (Finding.withColumn view) := by
  have hline : (p.seen view).raw.line = p.raw.line := rfl
  have hrule : (p.seen view).rule = p.rule := rfl
  unfold Placed.findingIn
  rw [hrule, hline]
  cases p.rule.id.text? with
  | none => rfl
  | some rule => cases lineAt? lines p.raw.line <;> rfl

theorem findingsFrom_map_seen (view : Option Int → Option Int) (lines : Array String)
    (seed : String) (tally : Tally) (ps : List Placed) :
    findingsFrom lines seed tally (ps.map (Placed.seen view)) =
      (findingsFrom lines seed tally ps).map (·.map (Finding.withColumn view)) := by
  induction ps generalizing tally with
  | nil => rfl
  | cons p ps ih =>
    have hrule : (p.seen view).rule = p.rule := rfl
    rw [List.map_cons, findingsFrom, findingsFrom, findingIn_seen, hrule, ih]
    cases p.findingIn lines seed (tally.count p.rule.id) with
    | error fault => rfl
    | ok finding => cases findingsFrom lines seed (tally.add p.rule.id) ps <;> rfl

theorem kind_of_mapM_place {catalog : Catalog} {raws : List RawMatch} {fault : AggregateFault}
    (h : raws.mapM (place catalog) = .error fault) : fault.kind = .unknownRule := by
  obtain ⟨raw, -, hfault⟩ := exists_of_mapM_eq_error h
  unfold place at hfault
  split at hfault
  · cases hfault
  · cases hfault
    rfl

/-- Matches of one finding have one rule. -/
theorem Placed.IsOf.seen_eq {catalog : Catalog} {p q : Placed} (hp : p.IsOf catalog)
    (hq : q.IsOf catalog) {view : Option Int → Option Int}
    (hsubject : p.raw.subject = q.raw.subject) (hcolumn : view p.raw.column = view q.raw.column) :
    p.seen view = q.seen view := by
  obtain ⟨hrule, hline⟩ := Prod.mk.inj hsubject
  have hsame := hp.1
  rw [hrule, hq.1, Option.some.injEq] at hsame
  simp only [Placed.seen, hline, hcolumn, hsame]

theorem argmin_map_raw (ps : List Placed) :
    (ps.map (·.raw)).argmin RawMatch.place = (ps.argmin (·.raw.place)).map (·.raw) := by
  induction ps with
  | nil => rfl
  | cons p ps ih =>
    rw [List.map_cons, List.argmin_cons, List.argmin_cons, ih]
    cases ps.argmin (·.raw.place) with
    | none => rfl
    | some q =>
      by_cases hlt : q.raw.place < p.raw.place <;> simp [hlt]

theorem filter_map_raw {catalog : Catalog} {ps : List Placed} {p : Placed}
    (hof : ∀ q ∈ ps, q.IsOf catalog) (hp : p.IsOf catalog) :
    (ps.map (·.raw)).filter (·.subject = p.raw.subject) =
      (ps.filter (·.key = p.key)).map (·.raw) := by
  rw [List.filter_map]
  congr 1
  apply List.filter_congr
  intro q hq
  simpa using ((hof q hq).key_eq_iff hp).symm

end Aggregate

open Aggregate

section Runs

variable {catalog : Catalog} {lines : List String} {seed : String} {raws raws' : List RawMatch}
  {ps : List Placed}

theorem map_seen_chosen {qs : List Placed} {view : Option Int → Option Int}
    (hps : raws.mapM (place catalog) = .ok ps) (hperm : ps.Perm qs)
    (hview : ∀ a b, Tied raws a b → view a.column = view b.column) :
    (chosen ps).map (Placed.seen view) = (chosen qs).map (Placed.seen view) := by
  obtain ⟨rfl, hof⟩ := isOf_of_placed hps
  apply map_chosen_eq hperm
  intro p hp q hq hkey hplace hleast
  have hsubject := ((hof p hp).key_eq_iff (hof q hq)).1 hkey
  refine (hof p hp).seen_eq (hof q hq) hsubject (hview _ _ ⟨?_, ?_, hsubject, hplace, ?_⟩)
  · exact List.mem_map_of_mem hp
  · exact List.mem_map_of_mem hq
  · intro c hc hcs
    obtain ⟨o, ho, rfl⟩ := List.mem_map.1 hc
    exact hleast o ho (((hof o ho).key_eq_iff (hof p hp)).2 hcs)

/-- The findings, their columns through a view, or the kind of the fault. -/
def outcome (view : Option Int → Option Int) (result : Except AggregateFault (List Finding)) :
    Except AggregateFault.Kind (List Finding) :=
  (result.map (·.map (Finding.withColumn view))).mapError AggregateFault.kind

/-- In another order the same comes of matches, as far as tied ones look the same. -/
theorem outcome_aggregate_perm {view : Option Int → Option Int} (hperm : raws.Perm raws')
    (hview : ∀ a b, Tied raws a b → view a.column = view b.column) :
    outcome view (aggregate catalog lines seed raws') =
      outcome view (aggregate catalog lines seed raws) := by
  cases hps : raws.mapM (place catalog) with
  | ok ps =>
    obtain ⟨qs, hqs, hpq⟩ := exists_perm_mapM hperm hps
    rw [aggregate_of_placed hps, aggregate_of_placed hqs, outcome, outcome,
      ← findingsFrom_map_seen, ← findingsFrom_map_seen, map_seen_chosen hps hpq hview]
  | error fault =>
    cases hqs : raws'.mapM (place catalog) with
    | ok qs =>
      obtain ⟨ps, hps', -⟩ := exists_perm_mapM hperm.symm hqs
      rw [hps] at hps'
      cases hps'
    | error fault' =>
      rw [aggregate_of_unplaced hps, aggregate_of_unplaced hqs]
      simp [outcome, Except.map, Except.mapError, kind_of_mapM_place hps, kind_of_mapM_place hqs]

theorem outcome_id (result : Except AggregateFault (List Finding)) :
    outcome id result = result.mapError AggregateFault.kind := by
  cases result with
  | error fault => rfl
  | ok findings =>
    have hid : Finding.withColumn id = id := rfl
    simp [outcome, Except.map, hid]

/-- A fault that is the same through a view is one of the same kind. -/
theorem mapError_eq_of_outcome_eq_error {view : Option Int → Option Int} {fault : AggregateFault}
    {result : Except AggregateFault (List Finding)}
    (h : outcome view result = outcome view (.error fault)) :
    result.mapError AggregateFault.kind = .error fault.kind := by
  cases result with
  | ok findings => cases h
  | error fault' => exact congrArg Except.error (Except.error.inj h)

theorem Tied.symm {a b : RawMatch} (h : Tied raws a b) : Tied raws b a := by
  obtain ⟨ha, hb, hsubject, hplace, hleast⟩ := h
  exact ⟨hb, ha, hsubject.symm, hplace.symm, hsubject ▸ hplace ▸ hleast⟩

/-- Without ambiguity, tied matches have the same column. -/
theorem column_eq_of_tied (h : ¬Ambiguous raws) {a b : RawMatch} (htied : Tied raws a b) :
    a.column = b.column := by
  obtain ⟨-, -, -, hplace, -⟩ := htied.symm
  cases hca : a.column with
  | none =>
    cases hcb : b.column with
    | none => rfl
    | some column =>
      have hzero : column = 0 := by simpa [RawMatch.place, hca, hcb] using hplace
      exact absurd ⟨a, b, htied, hca, hzero ▸ hcb⟩ h
  | some column =>
    cases hcb : b.column with
    | none =>
      have hzero : column = 0 := by simpa [RawMatch.place, hca, hcb, eq_comm] using hplace
      exact absurd ⟨b, a, htied.symm, hcb, hzero ▸ hca⟩ h
    | some column' => simpa [RawMatch.place, hca, hcb, eq_comm] using hplace

/-- A finding has the column of the first of its leftmost matches. -/
theorem argmin_of_aggregate {findings : List Finding}
    (h : aggregate catalog lines seed raws = .ok findings) {finding : Finding}
    (hmem : finding ∈ findings) :
    ∃ raw, (raws.filter (·.subject = finding.subject)).argmin RawMatch.place = some raw ∧
      raw.column = finding.location.column := by
  obtain ⟨ps, rfl, hof, hfindings⟩ := exists_chosen_of_aggregate h
  have hviews : findings.map (fun f => (f.subject, f.location.column)) =
      (chosen ps).map fun p => ((p.rule.id, p.raw.line), p.raw.column) :=
    map_findingsFrom (fun _ _ _ => rfl) hfindings
  obtain ⟨p, hp, hview⟩ := List.mem_map.1 (hviews ▸ List.mem_map_of_mem hmem)
  have hpof := hof p (mem_of_mem_chosen hp)
  rw [hpof.rule_id, Prod.mk.injEq] at hview
  obtain ⟨hsubject, hcolumn⟩ := hview
  have hsame : finding.subject = p.raw.subject := hsubject.symm
  refine ⟨p.raw, ?_, hcolumn⟩
  rw [hsame, filter_map_raw hof hpof, argmin_map_raw, mem_chosen_iff.1 hp]
  rfl

/-- A match that arrives first and that no other one for the same finding is further left than
gives the finding its column. -/
theorem column_of_first {first : RawMatch}
    (hleast : ∀ raw ∈ raws, raw.subject = first.subject → first.place ≤ raw.place)
    {findings : List Finding}
    (h : aggregate catalog lines seed (first :: raws.erase first) = .ok findings) :
    ∃ finding ∈ findings, finding.subject = first.subject ∧
      finding.location.column = first.column := by
  have hmem : first.subject ∈ findings.map Finding.subject :=
    (mem_subjects_of_aggregate h).2 (by simp)
  obtain ⟨finding, hfinding, hsubject⟩ := List.mem_map.1 hmem
  obtain ⟨raw, hraw, hcolumn⟩ := argmin_of_aggregate h hfinding
  rw [hsubject, List.filter_cons_of_pos (by simp), List.argmin_cons] at hraw
  refine ⟨finding, hfinding, hsubject, ?_⟩
  cases hrest : ((raws.erase first).filter (·.subject = first.subject)).argmin RawMatch.place with
  | none =>
    rw [hrest] at hraw
    rw [← hcolumn, ← Option.some.inj hraw]
  | some other =>
    obtain ⟨hother, hsame⟩ := List.mem_filter.1 (List.argmin_mem hrest)
    have hle := hleast other (List.mem_of_mem_erase hother) (by simpa using hsame)
    rw [hrest] at hraw
    simp only [if_neg (not_lt_of_ge hle)] at hraw
    rw [← hcolumn, ← Option.some.inj hraw]

/-- Matches for one finding give it alone, with the column of the first of the leftmost. -/
theorem columns_of_one_subject (raw : RawMatch) {findings : List Finding}
    (h : aggregate catalog lines seed raws = .ok findings)
    (hsubject : ∀ other ∈ raws, other.subject = raw.subject)
    (hfirst : raws.argmin RawMatch.place = some raw) :
    findings.map (·.location.column) = [raw.column] := by
  have hsubjects : ∀ finding ∈ findings, finding.subject = raw.subject := by
    intro finding hfinding
    have hmem := (mem_subjects_of_aggregate h).1 (List.mem_map_of_mem hfinding)
    obtain ⟨other, hother, heq⟩ := List.mem_map.1 hmem
    exact heq.symm.trans (hsubject other hother)
  have hcolumns : ∀ finding ∈ findings, finding.location.column = raw.column := by
    intro finding hfinding
    obtain ⟨other, hother, hcolumn⟩ := argmin_of_aggregate h hfinding
    rw [hsubjects finding hfinding,
      List.filter_eq_self.2 fun other hmem => by simpa using hsubject other hmem, hfirst] at hother
    rw [← hcolumn, Option.some.inj hother]
  have hmem : raw.subject ∈ findings.map Finding.subject :=
    (mem_subjects_of_aggregate h).2 (List.mem_map_of_mem (List.argmin_mem hfirst))
  have hnodup := Catalog.nodup_subjects_of_pairwise (pairwise_of_aggregate h)
  match findings with
  | [] => cases hmem
  | [finding] => simpa using hcolumns
  | first :: second :: _ =>
    have hsame := (hsubjects first (by simp)).trans (hsubjects second (by simp)).symm
    exact absurd (by simp [hsame]) (List.nodup_cons.1 hnodup).1

/-- Ambiguous matches give different findings in two orders. -/
theorem exists_order_of_ambiguous (h : Ambiguous raws) {findings : List Finding}
    (hfindings : aggregate catalog lines seed raws = .ok findings) :
    ∃ raws', raws.Perm raws' ∧ aggregate catalog lines seed raws' ≠ .ok findings := by
  obtain ⟨a, b, htied, hca, hcb⟩ := h
  obtain ⟨-, -, -, -, hleast'⟩ := htied.symm
  obtain ⟨ha, hb, hsubject, -, hleast⟩ := htied
  by_contra hall
  have hsame : ∀ raws', raws.Perm raws' → aggregate catalog lines seed raws' = .ok findings := by
    intro raws' hperm
    by_contra hne
    exact hall ⟨raws', hperm, hne⟩
  obtain ⟨f, hf, hfs, hfc⟩ := column_of_first hleast
    (hsame _ (List.perm_cons_erase ha))
  obtain ⟨g, hg, hgs, hgc⟩ := column_of_first hleast'
    (hsame _ (List.perm_cons_erase hb))
  -- one finding would have the column of both matches
  have hfg : f = g := by
    have hnodup := Catalog.nodup_subjects_of_pairwise (pairwise_of_aggregate hfindings)
    exact List.inj_on_of_nodup_map hnodup hf hg (hfs.trans (hsubject.trans hgs.symm))
  rw [← hfg, hfc, hca, hcb] at hgc
  cases hgc

end Runs

/-! ## The law -/

/-- Matches in another order give the same findings, a missing column read as the first one, or a
fault of the same kind. They give just the same findings in all orders if and only if none of them
are ambiguous; a finding has the column of the first of its leftmost matches. -/
theorem the_order_of_matches_decides_on_a_missing_column_alone (catalog : Catalog)
    (lines : List String) (seed : String) (raws : List RawMatch) :
    (∀ raws', raws.Perm raws' →
      outcome filled (aggregate catalog lines seed raws') =
        outcome filled (aggregate catalog lines seed raws)) ∧
      ((∀ raws', raws.Perm raws' →
        (aggregate catalog lines seed raws').mapError AggregateFault.kind =
          (aggregate catalog lines seed raws).mapError AggregateFault.kind) ↔
        ∀ findings, aggregate catalog lines seed raws = .ok findings → ¬Ambiguous raws) ∧
      ∀ findings, aggregate catalog lines seed raws = .ok findings → ∀ finding ∈ findings,
        ∃ raw, (raws.filter (·.subject = finding.subject)).argmin RawMatch.place = some raw ∧
          raw.column = finding.location.column := by
  have hfilled : ∀ raws', raws.Perm raws' →
      outcome filled (aggregate catalog lines seed raws') =
        outcome filled (aggregate catalog lines seed raws) := by
    intro raws' hperm
    apply outcome_aggregate_perm hperm
    rintro a b ⟨-, -, -, hplace, -⟩
    exact congrArg some hplace
  refine ⟨hfilled, ⟨fun h findings hfindings hambiguous => ?_, fun h raws' hperm => ?_⟩,
    fun findings hfindings finding hmem => argmin_of_aggregate hfindings hmem⟩
  · obtain ⟨raws', hperm, hne⟩ := exists_order_of_ambiguous hambiguous hfindings
    have hsame := h raws' hperm
    rw [hfindings] at hsame
    exact hne (mapError_eq_ok.1 hsame)
  · cases hfindings : aggregate catalog lines seed raws with
    | ok findings =>
      rw [← hfindings, ← outcome_id, ← outcome_id]
      exact outcome_aggregate_perm hperm fun a b => column_eq_of_tied (h findings hfindings)
    | error fault =>
      have hsame := hfilled raws' hperm
      rw [hfindings] at hsame
      exact mapError_eq_of_outcome_eq_error hsame

/-- Of two matches for one finding, one without a column and one in the first column, the one that
arrives first gives the finding its column. -/
theorem a_missing_column_depends_on_the_order :
    let without : RawMatch := ⟨"bang", 1, none, "!"⟩
    let first : RawMatch := ⟨"bang", 1, some 0, "!"⟩
    ∃ findings findings', [without, first].Perm [first, without] ∧
      aggregate Catalog.small ["!"] "s" [without, first] = .ok findings ∧
      aggregate Catalog.small ["!"] "s" [first, without] = .ok findings' ∧
      findings.map (·.location.column) = [none] ∧ findings'.map (·.location.column) = [some 0] ∧
      findings ≠ findings' := by
  intro without first
  have hof : ∀ raw ∈ [without, first], raw.rule ∈ Catalog.small.ids ∧ 1 ≤ raw.line ∧
      raw.line ≤ ["!"].length := by decide +kernel
  have hperm : [without, first].Perm [first, without] := .swap first without []
  have hnames : ∀ raw ∈ [without, first], ∃ id : String, raw.rule = id := by
    intro raw hraw
    rcases List.mem_pair.1 hraw with rfl | rfl <;> exact ⟨"bang", rfl⟩
  obtain ⟨findings, h⟩ := (exists_aggregate_eq_ok_iff_of_mem hof).2 hnames
  obtain ⟨findings', h'⟩ := (exists_aggregate_eq_ok_iff_of_mem fun raw hraw =>
    hof raw (hperm.mem_iff.2 hraw)).2 fun raw hraw => hnames raw (hperm.mem_iff.2 hraw)
  have hcolumns : findings.map (·.location.column) = [none] :=
    columns_of_one_subject without h (by decide +kernel) (by decide +kernel)
  have hcolumns' : findings'.map (·.location.column) = [some 0] :=
    columns_of_one_subject first h' (by decide +kernel) (by decide +kernel)
  refine ⟨findings, findings', hperm, h, h', hcolumns, hcolumns', ?_⟩
  rintro rfl
  rw [hcolumns] at hcolumns'
  cases hcolumns'

end SourceAudit
