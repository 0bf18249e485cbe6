-- What a scan makes of sites. The matches of a catalog in some lines give the findings of the first
-- hits, line by line, each with the number of findings of its rule before it; but where the
-- identifier of such a rule has surrogates, they give none, since it cannot be digested. A report
-- holds the findings of all rules but those that stand for clean files.

import SourceAudit.Proofs.FallibleSteps
import SourceAudit.Proofs.Sites
import SourceAudit.Proofs.WideTexts

namespace SourceAudit

open SourceAudit.Aggregate

/-! ## Findings at sites -/

namespace Site

/-- A site with the place of its rule in a catalog. -/
def placed (catalog : Catalog) (site : Site) : Placed :=
  ⟨site.raw, site.rule, (catalog.position? site.rule.id).getD 0⟩

/-- The finding at a site, where its rule has `occurrence` findings before. -/
def finding (site : Site) (seed : String) (occurrence : Nat) : Finding :=
  Placed.finding ⟨site.raw, site.rule, 0⟩
    (Identity.findingId seed site.rule.id.characters site.number occurrence) site.line

/-- The findings at sites, where the rules named in `before` have found something already, each as
often as it is named. -/
def findings (seed : String) (before : List WideText) : List Site → List Finding
  | [] => []
  | site :: rest =>
    site.finding seed (before.count site.rule.id) ::
      findings seed (before ++ [site.rule.id]) rest

/-- The rule of a site can be named: its identifier has no surrogates. -/
def isNamed (site : Site) : Bool :=
  site.rule.id.text?.isSome

/-- The findings at sites, unless a rule among theirs cannot be named. -/
def outcome (seed : String) (before : List WideText) (sites : List Site) :
    Except AggregateFault (List Finding) :=
  match sites.find? (!·.isNamed) with
  | some site => .error (.unencodable site.rule.id)
  | none => .ok (findings seed before sites)

theorem findings_cons (seed : String) (before : List WideText) (site : Site) (rest : List Site) :
    findings seed before (site :: rest) =
      site.finding seed (before.count site.rule.id) ::
        findings seed (before ++ [site.rule.id]) rest :=
  rfl

@[simp] theorem finding_rule (site : Site) (seed : String) (occurrence : Nat) :
    (site.finding seed occurrence).rule = site.rule.id :=
  rfl

@[simp] theorem finding_type (site : Site) (seed : String) (occurrence : Nat) :
    (site.finding seed occurrence).type = site.rule.type :=
  rfl

theorem mem_findings {seed : String} {before : List WideText} {sites : List Site} {f : Finding}
    (h : f ∈ findings seed before sites) : ∃ site ∈ sites, ∃ n, f = site.finding seed n := by
  induction sites generalizing before with
  | nil => cases h
  | cons site rest ih =>
    rcases List.mem_cons.1 h with rfl | h
    · exact ⟨site, List.mem_cons_self, _, rfl⟩
    · obtain ⟨other, hmem, hf⟩ := ih h
      exact ⟨other, List.mem_cons_of_mem _ hmem, hf⟩

/-- What does not depend on the identifiers of findings can be read off the sites. -/
theorem map_findings {α : Type} {view : Finding → α} {look : Site → α} {seed : String}
    (h : ∀ (site : Site) n, view (site.finding seed n) = look site) (before : List WideText)
    (sites : List Site) : (findings seed before sites).map view = sites.map look := by
  induction sites generalizing before with
  | nil => rfl
  | cons site rest ih => simp only [findings, List.map_cons, h, ih]

theorem findings_append (seed : String) (before : List WideText) (first second : List Site) :
    findings seed before (first ++ second) =
      findings seed before first ++ findings seed (before ++ first.map (·.rule.id)) second := by
  induction first generalizing before with
  | nil => simp [findings]
  | cons site rest ih => simp [findings, ih, List.append_assoc]

/-- Leaving out rules leaves the findings of the others as they are, since each rule counts its
own. -/
theorem findings_filter (keep : Rule → Bool) {kept : Finding → Bool} {seed : String}
    (hkept : ∀ (site : Site) n, kept (site.finding seed n) = keep site.rule) {sites : List Site}
    (hsites : ∀ a ∈ sites, ∀ b ∈ sites, a.rule.id = b.rule.id → a.rule = b.rule)
    {before before' : List WideText}
    (hbefore : ∀ site ∈ sites, keep site.rule = true →
      before.count site.rule.id = before'.count site.rule.id) :
    (findings seed before sites).filter kept =
      findings seed before' (sites.filter (keep ·.rule)) := by
  induction sites generalizing before before' with
  | nil => rfl
  | cons site rest ih =>
    have hrest : ∀ a ∈ rest, ∀ b ∈ rest, a.rule.id = b.rule.id → a.rule = b.rule :=
      fun a ha b hb => hsites a (List.mem_cons_of_mem _ ha) b (List.mem_cons_of_mem _ hb)
    rw [findings_cons, List.filter_cons, List.filter_cons, hkept]
    split
    · next hkeep =>
      rw [findings_cons, hbefore site List.mem_cons_self hkeep]
      congr 1
      apply ih hrest
      intro other hother hk
      rw [List.count_append, List.count_append,
        hbefore other (List.mem_cons_of_mem _ hother) hk]
    · next hkeep =>
      apply ih hrest
      intro other hother hk
      have hne : site.rule.id ≠ other.rule.id := fun hid =>
        hkeep (hsites site List.mem_cons_self other (List.mem_cons_of_mem _ hother) hid ▸ hk)
      rw [List.count_append, List.count_singleton, if_neg (by simpa using hne), Nat.add_zero,
        hbefore other (List.mem_cons_of_mem _ hother) hk]

end Site

/-! ## From matches to findings -/

theorem Rule.matchesFrom_eq (rule : Rule) (number : Nat) (lines : List String) :
    rule.matchesFrom number lines = (Site.ofRule rule number lines).map Site.raw := by
  induction lines generalizing number with
  | nil => rfl
  | cons line rest ih =>
    simp only [matchesFrom, Site.ofRule, List.map_append, ih, List.map_map]
    rfl

/-- The matches in lines are made of the hits of the rules for the language. -/
theorem Catalog.matchesInLines_eq (catalog : Catalog) (language : Language) (lines : List String) :
    catalog.matchesInLines language lines =
      ((catalog.rulesFor language).flatMap (Site.ofRule · 1 lines)).map Site.raw := by
  unfold matchesInLines
  rw [List.map_flatMap]
  congr 1
  funext rule
  exact rule.matchesFrom_eq 1 lines

theorem Aggregate.Tally.count_add (tally : Tally) (rule id : WideText) :
    Tally.count (tally.add rule) id = Tally.count tally id + [rule].count id := by
  induction tally with
  | nil =>
    by_cases h : rule = id
    · simp [Tally.add, Tally.count, h]
    · simp [Tally.add, Tally.count, h, List.lookup_cons, beq_eq_false_iff_ne.2 (Ne.symm h)]
  | cons entry rest ih =>
    obtain ⟨key, n⟩ := entry
    unfold Tally.count at ih ⊢
    by_cases hk : key = rule
    · subst hk
      by_cases h : key = id
      · simp [Tally.add, h]
      · simp [Tally.add, h, List.lookup_cons, beq_eq_false_iff_ne.2 (Ne.symm h)]
    · by_cases h : id = key
      · subst h
        simp [Tally.add, hk, Ne.symm hk]
      · simp [Tally.add, hk, List.lookup_cons, beq_eq_false_iff_ne.2 h, ih]

theorem Aggregate.lineAt?_of_getElem? {lines : List String} {i : Nat} {line : String}
    (h : lines[i]? = some line) : lineAt? lines.toArray ((1 + i : Nat) : Int) = some line := by
  have hindex : (((1 + i : Nat) : Int) - 1).toNat = i := by omega
  unfold lineAt?
  dsimp only
  rw [if_pos (by omega), hindex, List.getElem?_toArray, h]

/-- The finding at a site that lies on one of the lines is made, unless its rule cannot be named. -/
theorem Aggregate.findingIn_placed {catalog : Catalog} {lines : List String} {site : Site}
    (hsite : ∃ i, lines[i]? = some site.line ∧ site.number = 1 + i) (seed : String)
    (occurrence : Nat) :
    (site.placed catalog).findingIn lines.toArray seed occurrence =
      if site.isNamed then .ok (site.finding seed occurrence)
      else .error (.unencodable site.rule.id) := by
  obtain ⟨i, hline, hnumber⟩ := hsite
  have hat : lineAt? lines.toArray (site.placed catalog).raw.line = some site.line := by
    have := lineAt?_of_getElem? hline
    rwa [← hnumber] at this
  unfold Placed.findingIn Site.isNamed
  rw [show (site.placed catalog).rule.id = site.rule.id from rfl, hat]
  cases htext : site.rule.id.text? with
  | none => rfl
  | some rule =>
    unfold Site.finding
    rw [WideText.characters_of_text? htext]
    rfl

/-- Where every site lies on one of the lines, the findings at the sites are made, unless one of the
rules cannot be named; the first of these is told. -/
theorem Aggregate.findingsFrom_placed {catalog : Catalog} {lines : List String} {seed : String}
    {sites : List Site}
    (hsites : ∀ site ∈ sites, ∃ i, lines[i]? = some site.line ∧ site.number = 1 + i)
    {tally : Tally} {before : List WideText} (hcount : ∀ id, tally.count id = before.count id) :
    findingsFrom lines.toArray seed tally (sites.map (Site.placed catalog)) =
      Site.outcome seed before sites := by
  induction sites generalizing tally before with
  | nil => rfl
  | cons site rest ih =>
    obtain ⟨hsite, hrest⟩ := List.forall_mem_cons.1 hsites
    have hnext : ∀ id, Tally.count (tally.add site.rule.id) id =
        (before ++ [site.rule.id]).count id := fun id => by
      rw [Tally.count_add, hcount, List.count_append]
    rw [List.map_cons, findingsFrom, findingIn_placed hsite,
      show (site.placed catalog).rule.id = site.rule.id from rfl, ih hrest hnext, hcount]
    unfold Site.outcome
    rw [List.find?_cons]
    cases hnamed : site.isNamed with
    | false => rfl
    | true =>
      rw [Bool.not_true]
      cases rest.find? (!·.isNamed) <;> rfl

namespace Catalog

variable {catalog : Catalog}

/-- The identifier of a rule of a catalog tells which sites are its own. -/
theorem site_rule_eq (hids : catalog.ids.Nodup) {rules : List Rule}
    (hrules : ∀ rule ∈ rules, rule ∈ catalog.rules) {number : Nat} {lines : List String} :
    ∀ a ∈ Site.inLines rules number lines, ∀ b ∈ Site.inLines rules number lines,
      a.rule.id = b.rule.id → a.rule = b.rule := by
  intro a ha b hb hid
  exact rule_eq_of_id_eq hids (hrules _ (Site.mem_inLines.1 ha).1)
    (hrules _ (Site.mem_inLines.1 hb).1) hid

theorem place_raw (hids : catalog.ids.Nodup) {site : Site} (h : site.rule ∈ catalog.rules) :
    Aggregate.place catalog site.raw = .ok (site.placed catalog) := by
  obtain ⟨position, hposition⟩ := exists_position?_of_mem hids h
  unfold Aggregate.place Site.placed
  rw [show site.raw.rule = site.rule.id from rfl, get?_of_mem hids h, hposition]
  rfl

/-- Of the matches of a catalog, those at the first hits are kept, line by line. -/
theorem chosen_matches (hids : catalog.ids.Nodup) (language : Language) (lines : List String) :
    chosen (((catalog.rulesFor language).flatMap (Site.ofRule · 1 lines)).map
        (Site.placed catalog)) =
      (Site.inLines (catalog.rulesFor language) 1 lines).map (Site.placed catalog) := by
  have hrules : ∀ rule ∈ catalog.rulesFor language, rule ∈ catalog.rules := fun rule h =>
    (List.mem_filter.1 h).1
  apply chosen_eq
  · rw [List.pairwise_map]
    have horder := (pairwise_position? hids).filter (·.appliesTo language)
    refine (Site.inLines_pairwise horder 1 lines).imp_of_mem ?_
    intro a b ha hb hab
    obtain ⟨p, hp⟩ := exists_position?_of_mem hids (hrules _ (Site.mem_inLines.1 ha).1)
    obtain ⟨q, hq⟩ := exists_position?_of_mem hids (hrules _ (Site.mem_inLines.1 hb).1)
    simp only [Placed.key, Prod.Lex.toLex_lt_toLex, Site.placed, Site.raw, hp, hq,
      Option.getD_some]
    rcases hab with hlt | ⟨heq, hpq⟩
    · exact Or.inl (by omega)
    · exact Or.inr ⟨by omega, hpq p q hp hq⟩
  · intro e he
    obtain ⟨site, hsite, rfl⟩ := List.mem_map.1 he
    obtain ⟨hrule, hhit, hline⟩ := Site.mem_inLines.1 hsite
    refine List.mem_map_of_mem (List.mem_flatMap.2 ⟨site.rule, hrule, ?_⟩)
    exact Site.mem_ofRule.2 ⟨rfl, List.mem_of_mem_head? hhit, hline⟩
  · -- the first hit of the same rule on the same line covers a match
    intro q hq
    obtain ⟨site, hsite, rfl⟩ := List.mem_map.1 hq
    obtain ⟨rule, hrule, hsite⟩ := List.mem_flatMap.1 hsite
    obtain ⟨rfl, hhit, hline⟩ := Site.mem_ofRule.1 hsite
    have hpairwise := site.rule.hitsIn_pairwise site.line
    cases hhits : site.rule.hitsIn site.line with
    | nil => rw [hhits] at hhit; cases hhit
    | cons first rest =>
      rw [hhits] at hhit hpairwise
      refine ⟨Site.placed catalog { site with hit := first }, List.mem_map_of_mem ?_, rfl, ?_⟩
      · exact Site.mem_inLines.2 ⟨hrule, by simp [hhits], hline⟩
      · rcases List.mem_cons.1 hhit with heq | hhit
        · exact Or.inl (by rw [← heq])
        · have hlt := (List.pairwise_cons.1 hpairwise).1 site.hit hhit
          right
          simp only [RawMatch.place, Site.placed, Site.raw, Option.getD_some]
          omega

/-- The matches of a catalog in lines give the findings at the first hits. -/
theorem aggregate_matchesInLines (hids : catalog.ids.Nodup) (language : Language)
    (lines : List String) (seed : String) :
    aggregate catalog lines seed (catalog.matchesInLines language lines) =
      Site.outcome seed [] (Site.inLines (catalog.rulesFor language) 1 lines) := by
  have hplaced : (catalog.matchesInLines language lines).mapM (Aggregate.place catalog) =
      .ok (((catalog.rulesFor language).flatMap (Site.ofRule · 1 lines)).map
        (Site.placed catalog)) := by
    rw [matchesInLines_eq, List.mapM_map]
    apply mapM_eq_ok_map
    intro site hsite
    obtain ⟨rule, hrule, hsite⟩ := List.mem_flatMap.1 hsite
    obtain ⟨rfl, _⟩ := Site.mem_ofRule.1 hsite
    exact place_raw hids (List.mem_filter.1 hrule).1
  unfold aggregate
  rw [hplaced]
  dsimp only [bind, Except.bind]
  rw [← chosen, chosen_matches hids]
  exact findingsFrom_placed (fun site hsite => (Site.mem_inLines.1 hsite).2.2) fun id => rfl

end Catalog

end SourceAudit
