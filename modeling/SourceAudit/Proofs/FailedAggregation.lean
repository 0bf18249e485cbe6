-- Matches that cannot be made into findings. Rules are looked for before lines are, so a match
-- whose rule is not in the catalog counts before one whose line is not there, wherever the two
-- stand. And what has been put in order has its rules, so that none is missed later. In between, a
-- rule whose identifier has no bytes to digest fails as well.

import SourceAudit.Proofs.ArrivalOrder

namespace SourceAudit

namespace Aggregate

variable {catalog : Catalog} {raws : List RawMatch}

/-! ## A rule that is not there -/

/-- The first match whose rule is not in the catalog is the one that is told. -/
theorem mapM_place_eq_error_iff {fault : AggregateFault} :
    raws.mapM (place catalog) = .error fault ↔
      ∃ raw, raws.find? (·.rule ∉ catalog.ids) = some raw ∧ fault = .unknownRule raw.rule := by
  induction raws with
  | nil => simp [pure, Except.pure]
  | cons raw rest ih =>
    rw [List.mapM_cons, bind_eq_error, List.find?_cons]
    by_cases hrule : raw.rule ∈ catalog.ids
    · obtain ⟨p, hp⟩ := exists_place_eq_ok hrule
      simp only [hp, hrule, not_true_eq_false, decide_false, ← ih, bind_eq_error]
      simp [pure, Except.pure]
    · simp [place_of_notMem hrule, hrule, eq_comm]

/-! ## An identifier without bytes, and a line that is not there -/

/-- What a match of a rule of the catalog fails for by itself. The identifier of the rule counts
before the line. -/
def faultOf? (lines : List String) (raw : RawMatch) : Option AggregateFault :=
  if raw.rule.text? = none then some (.unencodable raw.rule)
  else if -(lines.length : Int) ≤ raw.line - 1 ∧ raw.line - 1 < lines.length then none
  else some (.noSuchLine raw.line)

theorem findingIn_eq_error_iff {p : Placed} (hof : p.IsOf catalog) {lines : List String}
    {seed : String} {n : Nat} {fault : AggregateFault} :
    p.findingIn lines.toArray seed n = .error fault ↔ faultOf? lines p.raw = some fault := by
  unfold Placed.findingIn faultOf?
  simp only [hof.rule_id, ← lineAt?_isSome_iff]
  cases p.raw.rule.text? with
  | none => simp
  | some rule => cases lineAt? lines.toArray p.raw.line <;> simp

/-- By itself, no match of a rule of the catalog fails for a rule that is not there. -/
theorem faultOf?_ne_unknownRule {lines : List String} {raw : RawMatch} {id : WideText} :
    faultOf? lines raw ≠ some (.unknownRule id) := by
  unfold faultOf?
  split
  · simp
  · split <;> simp

theorem text?_eq_none_of_faultOf? {lines : List String} {raw : RawMatch} {id : WideText}
    (h : faultOf? lines raw = some (.unencodable id)) : raw.rule.text? = none := by
  unfold faultOf? at h
  split at h
  · assumption
  · split at h <;> cases h

/-- Matches in order fail for the first of them that fails by itself. -/
theorem findingsFrom_eq_error_iff {lines : List String} {seed : String} {tally : Tally}
    {ps : List Placed} (hof : ∀ p ∈ ps, p.IsOf catalog) {fault : AggregateFault} :
    findingsFrom lines.toArray seed tally ps = .error fault ↔
      ps.findSome? (faultOf? lines ·.raw) = some fault := by
  induction ps generalizing tally with
  | nil => simp [findingsFrom]
  | cons p rest ih =>
    obtain ⟨hp, hrest⟩ := List.forall_mem_cons.1 hof
    have hfirst : p.findingIn lines.toArray seed (tally.count p.rule.id) = .error fault ↔ _ :=
      findingIn_eq_error_iff hp
    rw [findingsFrom, bind_eq_error, hfirst, List.findSome?_cons]
    cases hfinding : p.findingIn lines.toArray seed (tally.count p.rule.id) with
    | error cause =>
      rw [(findingIn_eq_error_iff hp).1 hfinding]
      simp
    | ok finding =>
      have hnone : faultOf? lines p.raw = none := by
        by_contra h
        obtain ⟨cause, hcause⟩ := Option.ne_none_iff_exists'.1 h
        cases hfinding.symm.trans ((findingIn_eq_error_iff hp).2 hcause)
      have hrests : findingsFrom lines.toArray seed (tally.add p.rule.id) rest = .error fault ↔ _ :=
        ih hrest
      simp only [hnone, reduceCtorEq, false_or, Except.ok.injEq, exists_eq_left']
      rw [← hrests, bind_eq_error]
      simp [pure, Except.pure]

/-- In strict order, the first member with an answer is the least one with an answer. -/
theorem findSome?_eq_some_iff_of_pairwise {α β κ : Type} [Preorder κ] {key : α → κ}
    {f : α → Option β} {xs : List α} (hsorted : xs.Pairwise fun a b => key a < key b) {b : β} :
    xs.findSome? f = some b ↔ ∃ a ∈ xs, f a = some b ∧ ∀ x ∈ xs, key x < key a → f x = none := by
  rw [List.findSome?_eq_some_iff]
  constructor
  · rintro ⟨front, a, back, rfl, ha, hfront⟩
    refine ⟨a, by simp, ha, fun x hx hlt => ?_⟩
    obtain ⟨-, hback, -⟩ := List.pairwise_append.1 hsorted
    rcases List.mem_append.1 hx with hx | hx
    · exact hfront x hx
    · rcases List.mem_cons.1 hx with rfl | hx
      · exact absurd hlt (lt_irrefl _)
      · exact absurd hlt (lt_asymm (List.rel_of_pairwise_cons hback hx))
  · rintro ⟨a, ha, hb, hless⟩
    obtain ⟨front, back, rfl⟩ := List.append_of_mem ha
    refine ⟨front, a, back, rfl, hb, fun x hx => hless x (List.mem_append_left _ hx) ?_⟩
    exact (List.pairwise_append.1 hsorted).2.2 x hx a List.mem_cons_self

end Aggregate

/-- One match comes before another one: on a line above, or on the line by the order of rules. -/
def Catalog.IsAhead (catalog : Catalog) (a b : RawMatch) : Prop :=
  a.line < b.line ∨ a.line = b.line ∧
    ∃ p q, catalog.position? a.rule = some p ∧ catalog.position? b.rule = some q ∧ p < q

namespace Aggregate

theorem Placed.IsOf.key_lt_iff {p q : Placed} (hp : p.IsOf catalog) (hq : q.IsOf catalog) :
    p.key < q.key ↔ catalog.IsAhead p.raw q.raw := by
  simp [Placed.key, Prod.Lex.toLex_lt_toLex, Catalog.IsAhead, hp.2, hq.2]

/-- What is kept fails for what is least among all matches. -/
theorem findSome?_chosen_eq_some_iff {ps : List Placed} (hof : ∀ p ∈ ps, p.IsOf catalog)
    {lines : List String} {fault : AggregateFault} :
    (chosen ps).findSome? (faultOf? lines ·.raw) = some fault ↔
      ∃ p ∈ ps, faultOf? lines p.raw = some fault ∧
        ∀ q ∈ ps, catalog.IsAhead q.raw p.raw → faultOf? lines q.raw = none := by
  have hchosen : ∀ p ∈ chosen ps, p.IsOf catalog := fun p hp => hof p (mem_of_mem_chosen hp)
  have hfault : ∀ p ∈ ps, ∀ q ∈ ps, p.key = q.key →
      faultOf? lines p.raw = faultOf? lines q.raw := by
    intro p hp q hq hkey
    obtain ⟨hrule, hline⟩ := Prod.mk.inj (((hof p hp).key_eq_iff (hof q hq)).1 hkey)
    simp only [faultOf?, hrule, hline]
  rw [findSome?_eq_some_iff_of_pairwise (chosen_pairwise ps)]
  constructor
  · rintro ⟨p, hp, hpfault, hless⟩
    refine ⟨p, mem_of_mem_chosen hp, hpfault, fun q hq hahead => ?_⟩
    obtain ⟨q', hq', hkey, -⟩ := exists_mem_chosen hq
    rw [← hfault q' (mem_of_mem_chosen hq') q hq hkey]
    exact hless q' hq' (hkey ▸ ((hof q hq).key_lt_iff (hchosen p hp)).2 hahead)
  · rintro ⟨p, hp, hpfault, hless⟩
    obtain ⟨p', hp', hkey, -⟩ := exists_mem_chosen hp
    refine ⟨p', hp', (hfault p' (mem_of_mem_chosen hp') p hp hkey).trans hpfault, ?_⟩
    intro q hq hlt
    exact hless q (mem_of_mem_chosen hq) (((hchosen q hq).key_lt_iff (hof p hp)).1 (hkey ▸ hlt))

/-! ## Rules that are looked for again -/

/-- The findings for matches in order, where each match is given its rule when its turn comes. -/
def findingsByLookup (catalog : Catalog) (lines : Array String) (seed : String) (tally : Tally) :
    List RawMatch → Except AggregateFault (List Finding)
  | [] => .ok []
  | raw :: rest =>
    match catalog.get? raw.rule with
    | none => .error (.unknownRule raw.rule)
    | some rule => do
      let finding ← Placed.findingIn ⟨raw, rule, 0⟩ lines seed (tally.count rule.id)
      let others ← findingsByLookup catalog lines seed (tally.add rule.id) rest
      return finding :: others

/-- Matches that have their rules get the same ones again. -/
theorem findingsByLookup_map_raw {lines : Array String} {seed : String} {tally : Tally}
    {ps : List Placed} (hof : ∀ p ∈ ps, p.IsOf catalog) :
    findingsByLookup catalog lines seed tally (ps.map (·.raw)) =
      findingsFrom lines seed tally ps := by
  induction ps generalizing tally with
  | nil => rfl
  | cons p rest ih =>
    obtain ⟨hp, hrest⟩ := List.forall_mem_cons.1 hof
    rw [List.map_cons, findingsByLookup, findingsFrom, hp.1]
    simp only [ih hrest]
    rfl

end Aggregate

/-! ## What fails -/

open Aggregate

variable {catalog : Catalog} {lines : List String} {seed : String} {raws : List RawMatch}

/-- Matches that have their rules never fail for a rule that is not there. -/
theorem findingsFrom_ne_unknownRule {ps : List Placed} (hof : ∀ p ∈ ps, p.IsOf catalog)
    {id : WideText} : findingsFrom lines.toArray seed [] ps ≠ .error (.unknownRule id) := by
  intro h
  obtain ⟨p, -, hp⟩ := List.exists_of_findSome?_eq_some ((findingsFrom_eq_error_iff hof).1 h)
  exact faultOf?_ne_unknownRule hp

theorem aggregate_eq_unknownRule_iff {id : WideText} :
    aggregate catalog lines seed raws = .error (.unknownRule id) ↔
      ∃ raw, raws.find? (·.rule ∉ catalog.ids) = some raw ∧ raw.rule = id := by
  have hunplaced : raws.mapM (place catalog) = .error (.unknownRule id) ↔
      ∃ raw, raws.find? (·.rule ∉ catalog.ids) = some raw ∧ raw.rule = id := by
    rw [mapM_place_eq_error_iff]
    simp only [AggregateFault.unknownRule.injEq, eq_comm]
  rw [← hunplaced]
  cases hps : raws.mapM (place catalog) with
  | ok ps =>
    rw [aggregate_of_placed hps]
    obtain ⟨-, hof⟩ := isOf_of_placed hps
    exact iff_of_false (findingsFrom_ne_unknownRule fun p hp => hof p (mem_of_mem_chosen hp)) nofun
  | error fault => simp [aggregate_of_unplaced hps]

theorem exists_unknownRule_iff :
    (∃ id, aggregate catalog lines seed raws = .error (.unknownRule id)) ↔
      ∃ raw ∈ raws, raw.rule ∉ catalog.ids := by
  have hsome : (raws.find? (·.rule ∉ catalog.ids)).isSome = true ↔
      ∃ raw ∈ raws, raw.rule ∉ catalog.ids := by
    simp [List.find?_isSome]
  rw [← hsome, Option.isSome_iff_exists]
  simp only [aggregate_eq_unknownRule_iff]
  exact ⟨fun ⟨_, raw, hraw, _⟩ => ⟨raw, hraw⟩, fun ⟨raw, hraw⟩ => ⟨_, raw, hraw, rfl⟩⟩

/-- Where all rules are there, the foremost match that fails by itself is the one that is told. -/
theorem aggregate_eq_error_iff {fault : AggregateFault} (hfault : ∀ id, fault ≠ .unknownRule id) :
    aggregate catalog lines seed raws = .error fault ↔
      (∀ raw ∈ raws, raw.rule ∈ catalog.ids) ∧
        ∃ raw ∈ raws, faultOf? lines raw = some fault ∧
          ∀ other ∈ raws, catalog.IsAhead other raw → faultOf? lines other = none := by
  rw [← exists_mapM_place_iff]
  cases hps : raws.mapM (place catalog) with
  | ok ps =>
    obtain ⟨rfl, hof⟩ := isOf_of_placed hps
    rw [aggregate_of_placed hps, findingsFrom_eq_error_iff fun p hp => hof p (mem_of_mem_chosen hp),
      findSome?_chosen_eq_some_iff hof]
    simp
  | error cause =>
    obtain ⟨raw, -, rfl⟩ := mapM_place_eq_error_iff.1 hps
    simp [aggregate_of_unplaced hps, (hfault raw.rule).symm]

/-- Where the identifiers of all rules are texts of characters and all rules are there, a line is
missing unless there are findings. -/
theorem exists_noSuchLine_iff (hids : ∀ raw ∈ raws, ∃ id : String, raw.rule = id) :
    (∃ line, aggregate catalog lines seed raws = .error (.noSuchLine line)) ↔
      (∀ raw ∈ raws, raw.rule ∈ catalog.ids) ∧
        ∃ raw ∈ raws,
          ¬(-(lines.length : Int) ≤ raw.line - 1 ∧ raw.line - 1 < lines.length) := by
  have hmissing : (∃ id, aggregate catalog lines seed raws = .error (.unknownRule id)) ↔ _ :=
    exists_unknownRule_iff
  have hok : (∃ findings, aggregate catalog lines seed raws = .ok findings) ↔ _ :=
    exists_aggregate_eq_ok_iff
  cases hresult : aggregate catalog lines seed raws with
  | ok findings =>
    have hlines := (hok.1 ⟨findings, hresult⟩).2.2
    exact iff_of_false (by simp) fun ⟨_, raw, hraw, hline⟩ => hline (hlines raw hraw)
  | error fault =>
    have hnot : ¬((∀ raw ∈ raws, raw.rule ∈ catalog.ids) ∧ _ ∧ _) := fun h => by
      obtain ⟨findings, hfindings⟩ := hok.2 h
      cases hresult.symm.trans hfindings
    cases fault with
    | unknownRule id =>
      obtain ⟨raw, hraw, hrule⟩ := hmissing.1 ⟨id, hresult⟩
      exact iff_of_false (by simp) fun ⟨hknown, _⟩ => hrule (hknown raw hraw)
    | unencodable id =>
      obtain ⟨-, raw, hraw, hid, -⟩ := (aggregate_eq_error_iff (by simp)).1 hresult
      obtain ⟨name, hname⟩ := hids raw hraw
      have hnone := text?_eq_none_of_faultOf? hid
      rw [hname, WideText.text?_ofString] at hnone
      cases hnone
    | noSuchLine line =>
      obtain ⟨hknown, -⟩ := (aggregate_eq_error_iff (by simp)).1 hresult
      refine iff_of_true ⟨line, rfl⟩ ⟨hknown, ?_⟩
      by_contra h
      push Not at h
      exact hnot ⟨hknown, hids, h⟩
/-- Where all matches have been put in order, none of their rules is missing when it is looked for
again. -/
theorem aggregate_eq_findingsByLookup {ps : List Placed}
    (hps : raws.mapM (place catalog) = .ok ps) :
    aggregate catalog lines seed raws =
        findingsByLookup catalog lines.toArray seed [] ((chosen ps).map (·.raw)) ∧
      ∀ id, findingsByLookup catalog lines.toArray seed [] ((chosen ps).map (·.raw)) ≠
        .error (.unknownRule id) := by
  obtain ⟨-, hof⟩ := isOf_of_placed hps
  have hchosen : ∀ p ∈ chosen ps, p.IsOf catalog := fun p hp => hof p (mem_of_mem_chosen hp)
  rw [findingsByLookup_map_raw hchosen]
  exact ⟨aggregate_of_placed hps, fun _ => findingsFrom_ne_unknownRule hchosen⟩

/-! ## The law -/

end SourceAudit
