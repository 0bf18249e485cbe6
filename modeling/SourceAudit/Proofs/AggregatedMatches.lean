-- What matches from anywhere are made into. Each rule and line that some match names gets one
-- finding, with the least column of its matches; the findings come line by line, and each rule
-- counts its own. There are findings just when every rule that is named has a name of characters.

import SourceAudit.Proofs.ExactScan

namespace SourceAudit

/-- What a match is about: a rule and a line. -/
def RawMatch.subject (raw : RawMatch) : WideText × Int :=
  (raw.rule, raw.line)

namespace Aggregate

/-! ## Matches with their rules -/

/-- The match has the rule and the place that the catalog gives for its identifier. -/
def Placed.IsOf (catalog : Catalog) (p : Placed) : Prop :=
  catalog.get? p.raw.rule = some p.rule ∧ catalog.position? p.raw.rule = some p.position

theorem isOf_of_place {catalog : Catalog} {raw : RawMatch} {p : Placed}
    (h : place catalog raw = .ok p) : p.raw = raw ∧ p.IsOf catalog := by
  unfold place at h
  split at h
  · next rule position hrule hposition =>
    cases h
    exact ⟨rfl, hrule, hposition⟩
  · cases h

theorem isSome_position?_iff {catalog : Catalog} {id : WideText} :
    (catalog.position? id).isSome = true ↔ id ∈ catalog.ids := by
  rw [Catalog.position?, List.findIdx?_isSome, ← Catalog.contains_iff]
  rfl

/-- A match of any rule of the catalog can be placed. -/
theorem exists_place_eq_ok {catalog : Catalog} {raw : RawMatch} (h : raw.rule ∈ catalog.ids) :
    ∃ p, place catalog raw = .ok p := by
  obtain ⟨rule, hrule, hid⟩ := List.mem_map.1 h
  have hfound : (catalog.get? raw.rule).isSome = true :=
    List.find?_isSome.2 ⟨rule, hrule, by simpa using hid⟩
  obtain ⟨found, hfound⟩ := Option.isSome_iff_exists.1 hfound
  obtain ⟨index, hindex⟩ := Option.isSome_iff_exists.1 (isSome_position?_iff.2 h)
  refine ⟨⟨raw, found, index⟩, ?_⟩
  unfold place
  rw [hfound, hindex]

theorem place_of_notMem {catalog : Catalog} {raw : RawMatch} (h : raw.rule ∉ catalog.ids) :
    place catalog raw = .error (.unknownRule raw.rule) := by
  unfold place
  split
  · next rule position hrule _ =>
    obtain ⟨hmem, hid⟩ := Catalog.mem_of_get? hrule
    exact absurd (hid ▸ List.mem_map_of_mem hmem) h
  · rfl

/-- All matches get their rules when each of them has one. -/
theorem exists_mapM_place_iff {catalog : Catalog} {raws : List RawMatch} :
    (∃ ps, raws.mapM (place catalog) = .ok ps) ↔ ∀ raw ∈ raws, raw.rule ∈ catalog.ids := by
  rw [exists_mapM_eq_ok_iff]
  refine forall₂_congr fun raw _ => ⟨?_, exists_place_eq_ok⟩
  rintro ⟨p, hp⟩
  by_contra hrule
  rw [place_of_notMem hrule] at hp
  cases hp

namespace Placed.IsOf

variable {catalog : Catalog} {p q : Placed} (hp : p.IsOf catalog)
include hp

theorem rule_id : p.rule.id = p.raw.rule :=
  (Catalog.mem_of_get? hp.1).2

/-- The place of a match is that of one identifier. -/
theorem exists_getElem : ∃ h : p.position < catalog.rules.length,
    catalog.rules[p.position].id = p.raw.rule := by
  obtain ⟨hi, hid, -⟩ := List.findIdx?_eq_some_iff_getElem.1 hp.2
  exact ⟨hi, by simpa using hid⟩

/-- Keys of matches tell what the matches are about. -/
theorem key_eq_iff (hq : q.IsOf catalog) : p.key = q.key ↔ p.raw.subject = q.raw.subject := by
  simp only [Placed.key, RawMatch.subject, EmbeddingLike.apply_eq_iff_eq, Prod.mk.injEq]
  constructor
  · rintro ⟨hline, hposition⟩
    obtain ⟨_, hid⟩ := hp.exists_getElem
    obtain ⟨_, hid'⟩ := hq.exists_getElem
    simp only [hposition] at hid
    exact ⟨hid.symm.trans hid', hline⟩
  · rintro ⟨hrule, hline⟩
    have hposition := hp.2
    rw [hrule, hq.2, Option.some.injEq] at hposition
    exact ⟨hline, hposition.symm⟩

end Placed.IsOf

/-! ## Findings one after another -/

section Findings

variable {lines : Array String} {seed : String} {tally : Tally} {ps : List Placed}
  {findings : List Finding}

/-- A match is made into a finding when its rule has a name of characters and its line is there. -/
theorem findingIn_eq_ok_iff {p : Placed} {n : Nat} {finding : Finding} :
    p.findingIn lines seed n = .ok finding ↔
      ∃ rule : String, p.rule.id = rule ∧ ∃ line, lineAt? lines p.raw.line = some line ∧
        finding = p.finding (Identity.findingId seed rule p.raw.line n) line := by
  unfold Placed.findingIn
  simp only [← WideText.text?_eq_some_iff]
  cases p.rule.id.text? with
  | none => simp
  | some rule => cases lineAt? lines p.raw.line <;> simp [eq_comm]

theorem findingsFrom_cons_eq_ok_iff {p : Placed} :
    findingsFrom lines seed tally (p :: ps) = .ok findings ↔
      ∃ finding rest, p.findingIn lines seed (tally.count p.rule.id) = .ok finding ∧
        findingsFrom lines seed (tally.add p.rule.id) ps = .ok rest ∧
          findings = finding :: rest := by
  rw [findingsFrom]
  simp only [bind_eq_ok]
  constructor
  · rintro ⟨finding, hfinding, rest, hrest, h⟩
    exact ⟨finding, rest, hfinding, hrest, (Except.ok.inj h).symm⟩
  · rintro ⟨finding, rest, hfinding, hrest, rfl⟩
    exact ⟨finding, hfinding, rest, hrest, rfl⟩

/-- What depends on neither identifiers nor the text of lines can be read off the matches. -/
theorem map_findingsFrom {α : Type} {view : Finding → α} {look : Placed → α}
    (hview : ∀ p id line, view (Placed.finding p id line) = look p)
    (h : findingsFrom lines seed tally ps = .ok findings) : findings.map view = ps.map look := by
  induction ps generalizing tally findings with
  | nil =>
    cases h
    rfl
  | cons p ps ih =>
    obtain ⟨finding, rest, hfinding, hrest, rfl⟩ := findingsFrom_cons_eq_ok_iff.1 h
    obtain ⟨rule, -, line, -, rfl⟩ := findingIn_eq_ok_iff.1 hfinding
    rw [List.map_cons, List.map_cons, hview, ih hrest]

theorem subjects_of_findingsFrom {catalog : Catalog} (hof : ∀ p ∈ ps, p.IsOf catalog)
    (h : findingsFrom lines seed tally ps = .ok findings) :
    findings.map Finding.subject = ps.map (·.raw.subject) := by
  have hviews : findings.map Finding.subject = ps.map fun p => (p.rule.id, p.raw.line) :=
    map_findingsFrom (fun _ _ _ => rfl) h
  rw [hviews]
  apply List.map_congr_left
  intro p hp
  rw [(hof p hp).rule_id]
  rfl

/-- Each rule counts on from what it has so far. -/
theorem id_of_findingsFrom (h : findingsFrom lines seed tally ps = .ok findings) {rule : String}
    {k : Nat} {finding : Finding}
    (hk : (findings.filter (·.rule = .ofString rule))[k]? = some finding) :
    finding.id =
      Identity.findingId seed rule finding.location.line (tally.count rule + k : Nat) := by
  induction ps generalizing tally findings k with
  | nil =>
    cases h
    simp at hk
  | cons p ps ih =>
    obtain ⟨first, rest, hfirst, hrest, rfl⟩ := findingsFrom_cons_eq_ok_iff.1 h
    obtain ⟨name, hname, line, -, hfinding⟩ := findingIn_eq_ok_iff.1 hfirst
    have hfirst : first.rule = p.rule.id := by rw [hfinding]; rfl
    have hcount : Tally.count (tally.add p.rule.id) rule =
        tally.count rule + [p.rule.id].count ↑rule := Tally.count_add _ _ _
    by_cases hrule : p.rule.id = .ofString rule
    · obtain rfl : name = rule := WideText.ofString_inj.1 (hname.symm.trans hrule)
      rw [List.filter_cons_of_pos (by simp [hfirst, hrule])] at hk
      cases k with
      | zero =>
        rw [← Option.some.inj hk, hfinding, hname]
        rfl
      | succ k =>
        rw [ih hrest (by simpa using hk), hcount, hrule, List.count_singleton_self, Nat.add_assoc,
          Nat.add_comm 1 k]
    · rw [List.filter_cons_of_neg (by simpa [hfirst] using hrule)] at hk
      rw [ih hrest hk, hcount, List.count_singleton, if_neg (by simpa using hrule), Nat.add_zero]

theorem exists_findingsFrom_eq_ok_iff :
    (∃ findings, findingsFrom lines seed tally ps = .ok findings) ↔
      ∀ p ∈ ps, (∃ rule : String, p.rule.id = rule) ∧
        (lineAt? lines p.raw.line).isSome = true := by
  induction ps generalizing tally with
  | nil => simp [findingsFrom]
  | cons p rest ih =>
    rw [List.forall_mem_cons, ← @ih (tally.add p.rule.id)]
    constructor
    · rintro ⟨_, h⟩
      obtain ⟨finding, findings, hfinding, hfindings, -⟩ := findingsFrom_cons_eq_ok_iff.1 h
      obtain ⟨rule, hrule, line, hline, -⟩ := findingIn_eq_ok_iff.1 hfinding
      exact ⟨⟨⟨rule, hrule⟩, Option.isSome_iff_exists.2 ⟨line, hline⟩⟩, findings, hfindings⟩
    · rintro ⟨⟨⟨rule, hrule⟩, hsome⟩, findings, hfindings⟩
      obtain ⟨line, hline⟩ := Option.isSome_iff_exists.1 hsome
      exact ⟨_, findingsFrom_cons_eq_ok_iff.2 ⟨_, findings,
        findingIn_eq_ok_iff.2 ⟨rule, hrule, line, hline, rfl⟩, hfindings, rfl⟩⟩

end Findings

/-- Numbers count the lines from one on, and back from zero on. -/
theorem lineAt?_isSome_iff {lines : List String} {number : Int} :
    (lineAt? lines.toArray number).isSome = true ↔
      -(lines.length : Int) ≤ number - 1 ∧ number - 1 < lines.length := by
  unfold lineAt?
  simp only [List.size_toArray, List.getElem?_toArray]
  split
  · simp only [isSome_getElem?]
    omega
  · split
    · simp only [isSome_getElem?]
      omega
    · simp only [Option.isSome_none, Bool.false_eq_true, false_iff]
      omega

/-- The matches that are kept are about what all matches are about. -/
theorem mem_subjects_chosen {catalog : Catalog} {ps : List Placed} (hof : ∀ p ∈ ps, p.IsOf catalog)
    {subject : WideText × Int} :
    subject ∈ (chosen ps).map (·.raw.subject) ↔ subject ∈ ps.map (·.raw.subject) := by
  simp only [List.mem_map]
  constructor
  · rintro ⟨p, hp, rfl⟩
    exact ⟨p, mem_of_mem_chosen hp, rfl⟩
  · rintro ⟨q, hq, rfl⟩
    obtain ⟨p, hp, hkey, -⟩ := exists_mem_chosen hq
    exact ⟨p, hp, ((hof p (mem_of_mem_chosen hp)).key_eq_iff (hof q hq)).1 hkey⟩

end Aggregate

/-! ## From matches to findings -/

open Aggregate

variable {catalog : Catalog} {lines : List String} {seed : String} {raws : List RawMatch}
  {findings : List Finding}

theorem aggregate_of_placed {ps : List Placed} (hps : raws.mapM (place catalog) = .ok ps) :
    aggregate catalog lines seed raws = findingsFrom lines.toArray seed [] (chosen ps) := by
  rw [aggregate, hps]
  rfl

theorem aggregate_of_unplaced {fault : AggregateFault}
    (h : raws.mapM (place catalog) = .error fault) :
    aggregate catalog lines seed raws = .error fault := by
  rw [aggregate, h]
  rfl

/-- Placing keeps the matches as they are, and gives each what the catalog says of it. -/
theorem isOf_of_placed {ps : List Placed} (hps : raws.mapM (place catalog) = .ok ps) :
    ps.map (·.raw) = raws ∧ ∀ p ∈ ps, p.IsOf catalog := by
  refine ⟨map_of_mapM (fun _ _ h => (isOf_of_place h).1) hps, fun p hp => ?_⟩
  obtain ⟨raw, -, hplace⟩ := exists_of_mem_mapM hps p hp
  exact (isOf_of_place hplace).2

/-- The matches behind some findings, each with its rule. -/
theorem exists_chosen_of_aggregate (h : aggregate catalog lines seed raws = .ok findings) :
    ∃ ps, ps.map (·.raw) = raws ∧ (∀ p ∈ ps, p.IsOf catalog) ∧
      findingsFrom lines.toArray seed [] (chosen ps) = .ok findings := by
  obtain ⟨ps, hps, hfindings⟩ := bind_eq_ok.1 h
  exact ⟨ps, (isOf_of_placed hps).1, (isOf_of_placed hps).2, hfindings⟩

/-- Matches give findings when their rules are in the catalog and have names of characters, and
their lines are there. -/
theorem exists_aggregate_eq_ok_iff :
    (∃ findings, aggregate catalog lines seed raws = .ok findings) ↔
      (∀ raw ∈ raws, raw.rule ∈ catalog.ids) ∧ (∀ raw ∈ raws, ∃ id : String, raw.rule = id) ∧
        ∀ raw ∈ raws, -(lines.length : Int) ≤ raw.line - 1 ∧ raw.line - 1 < lines.length := by
  rw [← exists_mapM_place_iff]
  cases hps : raws.mapM (place catalog) with
  | ok ps =>
    obtain ⟨rfl, hof⟩ := isOf_of_placed hps
    have hchosen : ∀ p ∈ chosen ps, (p.rule.id, p.raw.line) = p.raw.subject := fun p hp => by
      rw [(hof p (mem_of_mem_chosen hp)).rule_id]
      rfl
    calc (∃ findings, aggregate catalog lines seed (ps.map (·.raw)) = .ok findings)
      _ ↔ ∀ subject ∈ (chosen ps).map (·.raw.subject),
          (∃ id, subject.1 = .ofString id) ∧ (lineAt? lines.toArray subject.2).isSome = true := by
        rw [aggregate_of_placed hps, exists_findingsFrom_eq_ok_iff, List.forall_mem_map]
        exact forall₂_congr fun p hp => by rw [← hchosen p hp]
      _ ↔ ∀ subject ∈ ps.map (·.raw.subject),
          (∃ id, subject.1 = .ofString id) ∧ (lineAt? lines.toArray subject.2).isSome = true := by
        simp only [mem_subjects_chosen hof]
      _ ↔ _ := by
        simp only [lineAt?_isSome_iff, List.forall_mem_map, RawMatch.subject, forall_and]
        simp
  | error fault => simp [aggregate_of_unplaced hps]

/-- The findings of one rule in strict order come line by line. -/
theorem lines_pairwise_of_rule (hpairwise : findings.Pairwise catalog.Before) (rule : WideText) :
    (findings.filter (·.rule = rule)).Pairwise fun a b => a.location.line < b.location.line := by
  have hrule : ∀ finding ∈ findings.filter (·.rule = rule), finding.rule = rule := fun _ hmem => by
    simpa using (List.mem_filter.1 hmem).2
  refine (hpairwise.filter _).imp_of_mem ?_
  rintro a b ha hb (hlt | ⟨-, p, q, hp, hq, hpq⟩)
  · exact hlt
  · rw [hrule a ha] at hp
    rw [hrule b hb, hp] at hq
    cases hq
    omega

section Findings

variable (h : aggregate catalog lines seed raws = .ok findings)
include h

/-- Findings come by line and by the place of their rules, and no two are about the same. -/
theorem pairwise_of_aggregate : findings.Pairwise catalog.Before := by
  obtain ⟨ps, -, hof, hfindings⟩ := exists_chosen_of_aggregate h
  have hsubjects := subjects_of_findingsFrom (fun p hp => hof p (mem_of_mem_chosen hp)) hfindings
  -- the order speaks of the subjects alone
  have hpairwise : (findings.map Finding.subject).Pairwise fun a b => a.2 < b.2 ∨ a.2 = b.2 ∧
      ∃ p q, catalog.position? a.1 = some p ∧ catalog.position? b.1 = some q ∧ p < q := by
    rw [hsubjects, List.pairwise_map]
    refine (chosen_pairwise ps).imp_of_mem ?_
    intro a b ha hb hab
    have hpa := (hof a (mem_of_mem_chosen ha)).2
    have hpb := (hof b (mem_of_mem_chosen hb)).2
    simp only [Placed.key, Prod.Lex.toLex_lt_toLex] at hab
    exact hab.imp_right fun hplace => ⟨hplace.1, _, _, hpa, hpb, hplace.2⟩
  rw [List.pairwise_map] at hpairwise
  exact hpairwise

/-- Findings are about what matches are about. -/
theorem mem_subjects_of_aggregate {subject : WideText × Int} :
    subject ∈ findings.map Finding.subject ↔ subject ∈ raws.map RawMatch.subject := by
  obtain ⟨ps, rfl, hof, hfindings⟩ := exists_chosen_of_aggregate h
  rw [subjects_of_findingsFrom (fun p hp => hof p (mem_of_mem_chosen hp)) hfindings, List.map_map]
  exact mem_subjects_chosen hof

/-- A finding has the column of one of its matches, which is no further right than any of them. -/
theorem column_of_aggregate {finding : Finding} (hmem : finding ∈ findings) :
    (∃ raw ∈ raws, raw.subject = finding.subject ∧ raw.column = finding.location.column) ∧
      ∀ raw ∈ raws, raw.subject = finding.subject →
        finding.location.column.getD 0 ≤ raw.place := by
  obtain ⟨ps, rfl, hof, hfindings⟩ := exists_chosen_of_aggregate h
  have hviews : findings.map (fun f => (f.subject, f.location.column)) =
      (chosen ps).map fun p => ((p.rule.id, p.raw.line), p.raw.column) :=
    map_findingsFrom (fun _ _ _ => rfl) hfindings
  obtain ⟨p, hp, hview⟩ := List.mem_map.1 (hviews ▸ List.mem_map_of_mem hmem)
  have hpof := hof p (mem_of_mem_chosen hp)
  rw [hpof.rule_id, Prod.mk.injEq] at hview
  obtain ⟨hsubject, hcolumn⟩ := hview
  refine ⟨⟨p.raw, List.mem_map_of_mem (mem_of_mem_chosen hp), hsubject, hcolumn⟩, ?_⟩
  intro raw hraw hsame
  obtain ⟨q, hq, rfl⟩ := List.mem_map.1 hraw
  rw [← hcolumn]
  exact place_le_of_mem_chosen hp hq ((hpof.key_eq_iff (hof q hq)).2 (hsubject.trans hsame.symm))

end Findings

/-! ## The law -/

/-- Where rules and lines are there, matches fail only for a rule whose identifier is no text of
characters. -/
theorem exists_aggregate_eq_ok_iff_of_mem
    (hraws : ∀ raw ∈ raws, raw.rule ∈ catalog.ids ∧ 1 ≤ raw.line ∧ raw.line ≤ lines.length) :
    (∃ findings, aggregate catalog lines seed raws = .ok findings) ↔
      ∀ raw ∈ raws, ∃ id : String, raw.rule = id := by
  rw [exists_aggregate_eq_ok_iff]
  refine ⟨fun h => h.2.1, fun h => ⟨fun raw hraw => (hraws raw hraw).1, h, fun raw hraw => ?_⟩⟩
  obtain ⟨-, hlow, hhigh⟩ := hraws raw hraw
  omega

/-- Matches of rules of a catalog on lines that are there give findings just when the identifier of
each rule is a text of characters. The findings are about what the matches are about, each thing
once, and stand in strict order. Each has the least column among its matches, where a missing one
counts as the first. For each rule they come line by line, and the identifier of the one with `k`
others before it is made of `k`. -/
theorem each_rule_and_line_gets_one_finding_and_the_next_ordinal (catalog : Catalog)
    (lines : List String) (seed : String) (raws : List RawMatch)
    (hraws : ∀ raw ∈ raws, raw.rule ∈ catalog.ids ∧ 1 ≤ raw.line ∧ raw.line ≤ lines.length) :
    ((∃ findings, aggregate catalog lines seed raws = .ok findings) ↔
      ∀ raw ∈ raws, ∃ id : String, raw.rule = id) ∧
    ∀ findings, aggregate catalog lines seed raws = .ok findings →
      (findings.map Finding.subject).Nodup ∧
      (∀ subject, subject ∈ findings.map Finding.subject ↔ subject ∈ raws.map RawMatch.subject) ∧
      findings.Pairwise catalog.Before ∧
      (∀ finding ∈ findings,
        (∃ raw ∈ raws, raw.subject = finding.subject ∧ raw.column = finding.location.column) ∧
          ∀ raw ∈ raws, raw.subject = finding.subject →
            finding.location.column.getD 0 ≤ raw.place) ∧
      ∀ rule : String, (findings.filter (·.rule = .ofString rule)).Pairwise
          (fun a b => a.location.line < b.location.line) ∧
        ∀ (k : Nat) finding, (findings.filter (·.rule = .ofString rule))[k]? = some finding →
          finding.id = Identity.findingId seed rule finding.location.line k := by
  refine ⟨exists_aggregate_eq_ok_iff_of_mem hraws, fun findings h => ?_⟩
  have hpairwise := pairwise_of_aggregate h
  refine ⟨Catalog.nodup_subjects_of_pairwise hpairwise, fun _ => mem_subjects_of_aggregate h,
    hpairwise, fun _ => column_of_aggregate h, fun rule => ⟨?_, fun k finding hk => ?_⟩⟩
  · exact lines_pairwise_of_rule hpairwise rule
  · obtain ⟨ps, -, -, hfindings⟩ := exists_chosen_of_aggregate h
    simpa [Tally.count] using id_of_findingsFrom hfindings hk

/-- Two matches of one rule on one line, the latter without a column, and others before and behind
them. -/
theorem matches_of_small_get_one_finding_and_the_next_ordinal :
    let raws : List RawMatch := [⟨"quiet", 2, some 4, "a"⟩, ⟨"bang", 2, some 3, "!"⟩,
      ⟨"bang", 1, some 0, "!"⟩, ⟨"bang", 2, none, "!!"⟩]
    (∀ raw ∈ raws, raw.rule ∈ Catalog.small.ids ∧ 1 ≤ raw.line ∧ raw.line ≤ ["!", "!! !a"].length) ∧
    ((∃ findings, aggregate Catalog.small ["!", "!! !a"] "s" raws = .ok findings) ↔
      ∀ raw ∈ raws, ∃ id : String, raw.rule = id) ∧
    ∀ findings, aggregate Catalog.small ["!", "!! !a"] "s" raws = .ok findings →
      (findings.map Finding.subject).Nodup ∧
      (∀ subject, subject ∈ findings.map Finding.subject ↔ subject ∈ raws.map RawMatch.subject) ∧
      findings.Pairwise Catalog.small.Before ∧
      (∀ finding ∈ findings,
        (∃ raw ∈ raws, raw.subject = finding.subject ∧ raw.column = finding.location.column) ∧
          ∀ raw ∈ raws, raw.subject = finding.subject →
            finding.location.column.getD 0 ≤ raw.place) ∧
      ∀ rule : String, (findings.filter (·.rule = .ofString rule)).Pairwise
          (fun a b => a.location.line < b.location.line) ∧
        ∀ (k : Nat) finding, (findings.filter (·.rule = .ofString rule))[k]? = some finding →
          finding.id = Identity.findingId "s" rule finding.location.line k := by
  intro raws
  have hraws : ∀ raw ∈ raws,
      raw.rule ∈ Catalog.small.ids ∧ 1 ≤ raw.line ∧ raw.line ≤ ["!", "!! !a"].length := by
    decide +kernel
  exact ⟨hraws, each_rule_and_line_gets_one_finding_and_the_next_ordinal Catalog.small
    ["!", "!! !a"] "s" raws hraws⟩

end SourceAudit
