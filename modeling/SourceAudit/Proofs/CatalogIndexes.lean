-- The ways into a catalog agree. Whatever has been asked to be left out since a catalog was read,
-- an identifier, a place and a rule of it name each other, every rule has something to say about
-- remediation, and leaving rules out step by step is leaving them out at once.

import SourceAudit.Proofs.AcceptedDocuments
import SourceAudit.Proofs.BuiltCatalog
import SourceAudit.Proofs.TrimmedTexts

namespace SourceAudit.Catalog

open SourceAudit.Document

/-! ## Requests to leave rules out -/

/-- The catalog after a request to leave rules out. A request that fails changes nothing. -/
def attempt (catalog : Catalog) (ids : List WideText) : Catalog :=
  match catalog.without ids with
  | .ok rest => rest
  | .error _ => catalog

/-- The catalog after some requests. -/
def after (catalog : Catalog) (requests : List (List WideText)) : Catalog :=
  requests.foldl attempt catalog

theorem Built.attempt {catalog : Catalog} (h : catalog.Built) (ids : List WideText) :
    (catalog.attempt ids).Built := by
  unfold Catalog.attempt
  cases hwithout : catalog.without ids with
  | ok rest => exact .without h hwithout
  | error unknown => exact h

theorem Built.after {catalog : Catalog} (h : catalog.Built) (requests : List (List WideText)) :
    (catalog.after requests).Built := by
  induction requests generalizing catalog with
  | nil => exact h
  | cons ids rest ih => exact ih (h.attempt ids)

/-! ## Leaving rules out twice -/

theorem ids_dropping (catalog : Catalog) (ids : List WideText) :
    (catalog.dropping ids).ids = catalog.ids.filter fun id => !ids.contains id := by
  rw [Catalog.ids, Catalog.ids, List.filter_map]
  rfl

theorem dropping_dropping {catalog : Catalog} {first second both : List WideText}
    (hboth : ∀ id, id ∈ both ↔ id ∈ first ∨ id ∈ second) :
    (catalog.dropping first).dropping second = catalog.dropping both := by
  unfold dropping
  dsimp only
  rw [List.filter_filter]
  congr 2
  funext rule
  rw [Bool.eq_iff_iff]
  simp [hboth, and_comm]

/-- Rules are left out one list after the other just when they can be left out at once. -/
theorem without_without_iff {catalog rest : Catalog} {first second both : List WideText}
    (hdisjoint : ∀ id ∈ first, id ∉ second)
    (hboth : ∀ id, id ∈ both ↔ id ∈ first ∨ id ∈ second) :
    (∃ middle, catalog.without first = .ok middle ∧ middle.without second = .ok rest) ↔
      catalog.without both = .ok rest := by
  simp only [without_eq_ok_iff]
  constructor
  · rintro ⟨_, ⟨hfirst, rfl⟩, hsecond, rfl⟩
    refine ⟨fun id hid => ?_, dropping_dropping hboth⟩
    rcases (hboth id).1 hid with h | h
    · exact hfirst id h
    · rw [ids_dropping] at hsecond
      exact (List.mem_filter.1 (hsecond id h)).1
  · rintro ⟨hknown, rfl⟩
    refine ⟨_, ⟨fun id hid => hknown id ((hboth id).2 (.inl hid)), rfl⟩, fun id hid => ?_,
      (dropping_dropping hboth).symm⟩
    rw [ids_dropping, List.mem_filter]
    have hkept : id ∉ first := fun h => hdisjoint id h hid
    exact ⟨hknown id ((hboth id).2 (.inr hid)), by simpa using hkept⟩

theorem without_fails_iff {catalog : Catalog} {ids : List WideText} :
    (∃ unknown, catalog.without ids = .error unknown) ↔
      ∃ id ∈ ids, catalog.contains id = false := by
  have hok : (∃ rest, catalog.without ids = .ok rest) ↔ ∀ id ∈ ids, id ∈ catalog.ids := by
    simp only [without_eq_ok_iff, exists_and_left, exists_eq, and_true]
  have hmem : ∀ id, catalog.contains id = false ↔ id ∉ catalog.ids := by
    intro id
    rw [← contains_iff, Bool.not_eq_true]
  simp only [hmem]
  cases hwithout : catalog.without ids with
  | ok rest =>
    have hall := hok.1 ⟨rest, hwithout⟩
    simp only [reduceCtorEq, exists_false, false_iff, not_exists, not_and, not_not]
    exact hall
  | error unknown =>
    rw [hwithout] at hok
    simpa using hok

/-! ## What every rule has -/

/-- A template that has been read has a rationale. -/
theorem rationale_templateOf {value : Value} (h : IsTemplate value) :
    (templateOf value).rationale.blank = false := by
  rw [templateOf, WideText.blank_trim]
  exact blank_said_eq_false_iff.2 h.2

theorem mem_put {α : Type} {name : WideText} {value : α} {table : List (WideText × α)}
    {entry : WideText × α} (h : entry ∈ put name value table) :
    entry ∈ table ∨ entry.2 = value := by
  induction table with
  | nil =>
    obtain rfl := List.mem_singleton.1 h
    exact .inr rfl
  | cons first rest ih =>
    unfold put at h
    split at h
    · rcases List.mem_cons.1 h with rfl | h
      · exact .inr rfl
      · exact .inl (List.mem_cons_of_mem _ h)
    · rcases List.mem_cons.1 h with rfl | h
      · exact .inl List.mem_cons_self
      · exact (ih h).imp_left (List.mem_cons_of_mem _)

theorem mem_of_lookup {α : Type} {name : WideText} {value : α} {table : List (WideText × α)}
    (h : table.lookup name = some value) : (name, value) ∈ table := by
  obtain ⟨before, behind, rfl, -⟩ := List.lookup_eq_some_iff.1 h
  exact List.mem_append_right _ List.mem_cons_self

theorem rationale_templatesFrom {done : List (WideText × FixTemplate)}
    {entries : List (Value × Value)} (hentries : ∀ entry ∈ entries, IsTemplate entry.2)
    (hdone : ∀ fix ∈ done, fix.2.rationale.blank = false) :
    ∀ fix ∈ templatesFrom done entries, fix.2.rationale.blank = false := by
  induction entries generalizing done with
  | nil => exact hdone
  | cons entry rest ih =>
    obtain ⟨hentry, hrest⟩ := List.forall_mem_cons.1 hentries
    refine ih hrest fun fix hfix => ?_
    rcases mem_put hfix with hfix | hfix
    · exact hdone fix hfix
    · rw [hfix]
      exact rationale_templateOf hentry

/-- A rule has an identifier, and a template with a rationale. -/
def IsStatedRule (rule : Rule) : Prop :=
  rule.id.blank = false ∧ rule.fix.rationale.blank = false

theorem isStatedRule_of_readDefinition {fixes : List (WideText × FixTemplate)} {index : Nat}
    {item : Value} {rule : Rule} (hfixes : ∀ fix ∈ fixes, fix.2.rationale.blank = false)
    (h : readDefinition fixes index item = .ok rule) : IsStatedRule rule := by
  have hid := id_of_readDefinition h
  obtain ⟨entries, hentries, hstated, -, h⟩ := readDefinition_eq_ok_iff.1 h
  obtain ⟨_, _, _, fix, _, _, -, -, -, hfix, -, -, -, hrule⟩ := (readRule_eq_ok_iff hentries).1 h
  constructor
  · rw [hid, idOf, WideText.blank_trim]
    exact (hstated "id" (by simp [requiredKeys])).2
  · have hrationale : fix.rationale.blank = false := by
      obtain ⟨⟨-, hlookup⟩ | ⟨-, htemplate, rfl⟩, -⟩ := readRuleFix_eq_ok_iff.1 hfix
      · exact hfixes _ (mem_of_lookup hlookup)
      · exact rationale_templateOf htemplate
    rw [hrule]
    exact hrationale

theorem isStatedRule_of_readRulesFrom {fixes : List (WideText × FixTemplate)} {seen : List WideText}
    {index : Nat} {items : List Value} {rules : List Rule}
    (hfixes : ∀ fix ∈ fixes, fix.2.rationale.blank = false)
    (h : readRulesFrom fixes seen index items = .ok rules) : ∀ rule ∈ rules, IsStatedRule rule := by
  induction items generalizing seen index rules with
  | nil =>
    cases h
    exact fun rule hrule => absurd hrule List.not_mem_nil
  | cons item rest ih =>
    rw [readRulesFrom] at h
    obtain ⟨rule, hrule, h⟩ := bind_eq_ok.1 h
    split at h
    · cases h
    · obtain ⟨others, hothers, h⟩ := bind_eq_ok.1 h
      cases h
      exact List.forall_mem_cons.2 ⟨isStatedRule_of_readDefinition hfixes hrule, ih hothers⟩

theorem rationale_of_readFixes {value : Value} {fixes : List (WideText × FixTemplate)}
    (h : readFixes value = .ok fixes) : ∀ fix ∈ fixes, fix.2.rationale.blank = false := by
  obtain ⟨-, hreadable, htemplates⟩ := readFixes_eq_ok_iff.1 h
  rw [← htemplates]
  exact rationale_templatesFrom (fun entry hentry => (hreadable entry hentry).1)
    fun fix hfix => absurd hfix List.not_mem_nil

theorem Built.isStatedRule {catalog : Catalog} (h : catalog.Built) :
    ∀ rule ∈ catalog.rules, IsStatedRule rule := by
  induction h with
  | read h =>
    obtain ⟨-, hfixes, -, hrules⟩ := ofDocument_eq_ok_iff.1 h
    exact isStatedRule_of_readRulesFrom (rationale_of_readFixes hfixes) hrules
  | without _ h ih =>
    obtain ⟨-, rfl⟩ := without_eq_ok_iff.1 h
    exact fun rule hrule => ih rule (List.mem_of_mem_filter hrule)

theorem Built.rationale_fixes {catalog : Catalog} (h : catalog.Built) :
    ∀ fix ∈ catalog.fixes, fix.2.rationale.blank = false := by
  induction h with
  | read h => exact rationale_of_readFixes (ofDocument_eq_ok_iff.1 h).2.1
  | without _ h ih =>
    obtain ⟨-, rfl⟩ := without_eq_ok_iff.1 h
    exact ih

/-! ## The order of types -/

/-- What passes a filter stands in the same order before it. -/
theorem idxOf_lt_of_filter {α : Type} [DecidableEq α] {p : α → Bool} {xs : List α} {a b : α}
    (ha : p a = true) (hb : p b = true) (h : (xs.filter p).idxOf a < (xs.filter p).idxOf b) :
    xs.idxOf a < xs.idxOf b := by
  induction xs with
  | nil => exact h
  | cons x rest ih =>
    rw [List.idxOf_cons, List.idxOf_cons]
    by_cases hx : p x = true
    · rw [List.filter_cons_of_pos hx, List.idxOf_cons, List.idxOf_cons] at h
      by_cases hxa : (x == a) = true
      · by_cases hxb : (x == b) = true
        · simp [hxa, hxb] at h
        · simp [hxa, hxb]
      · by_cases hxb : (x == b) = true
        · simp [hxb] at h
        · simp only [hxa, hxb] at h ⊢
          have := ih (by simpa using h)
          simpa using this
    · rw [List.filter_cons_of_neg hx] at h
      have hxa : (x == a) = false := beq_eq_false_iff_ne.2 fun heq => hx (heq ▸ ha)
      have hxb : (x == b) = false := beq_eq_false_iff_ne.2 fun heq => hx (heq ▸ hb)
      simp only [hxa, hxb, cond_false]
      exact Nat.succ_lt_succ (ih h)

/-- Without what has come before, a list is in the order of first occurrences. -/
theorem pairwise_eraseDups {α : Type} [DecidableEq α] (xs : List α) :
    xs.eraseDups.Pairwise fun a b => xs.idxOf a < xs.idxOf b := by
  induction hn : xs.length using Nat.strongRecOn generalizing xs with
  | ind n ih =>
    cases xs with
    | nil => simp
    | cons x rest =>
      have hshort : (rest.filter fun y => !y == x).length < n := by
        have := List.length_filter_le (fun y => !y == x) rest
        rw [List.length_cons] at hn
        omega
      have hother : ∀ y ∈ (rest.filter fun y => !y == x).eraseDups, (!y == x) = true := by
        intro y hy
        exact (List.mem_filter.1 (List.mem_eraseDups.1 hy)).2
      have hbehind : ∀ y, (!y == x) = true → (x :: rest).idxOf y = rest.idxOf y + 1 := by
        intro y hy
        rw [List.idxOf_cons_ne]
        rintro rfl
        simp at hy
      rw [List.eraseDups_cons, List.pairwise_cons]
      constructor
      · intro y hy
        rw [List.idxOf_cons_self, hbehind y (hother y hy)]
        exact Nat.succ_pos _
      · refine (ih _ hshort _ rfl).imp_of_mem fun {y z} hy hz h => ?_
        rw [hbehind y (hother y hy), hbehind z (hother z hz)]
        exact Nat.succ_lt_succ (idxOf_lt_of_filter (hother y hy) (hother z hz) h)

/-! ## The tables -/

theorem position?_eq_some_iff {catalog : Catalog} (hids : catalog.ids.Nodup) {id : WideText}
    {place : Nat} : catalog.position? id = some place ↔ catalog.ids[place]? = some id := by
  rw [Catalog.ids, List.getElem?_map, Option.map_eq_some_iff]
  constructor
  · intro h
    obtain ⟨hplace, hid, -⟩ := List.findIdx?_eq_some_iff_getElem.1 h
    exact ⟨_, List.getElem?_eq_getElem hplace, beq_iff_eq.1 hid⟩
  · rintro ⟨rule, hrule, rfl⟩
    obtain ⟨hplace, rfl⟩ := List.getElem?_eq_some_iff.1 hrule
    exact position?_getElem hids hplace

theorem lookup_put {α : Type} {name key : WideText} {value : α} {table : List (WideText × α)} :
    (put name value table).lookup key = if key = name then some value else table.lookup key := by
  induction table with
  | nil =>
    rw [put, List.lookup_cons]
    by_cases hkey : key = name
    · simp [hkey]
    · simp [hkey, beq_eq_false_iff_ne.2 hkey]
  | cons entry rest ih =>
    obtain ⟨n, v⟩ := entry
    rw [put]
    by_cases hn : n = name
    · subst hn
      rw [if_pos rfl, List.lookup_cons, List.lookup_cons]
      by_cases hkey : key = n
      · simp [hkey]
      · simp [hkey, beq_eq_false_iff_ne.2 hkey]
    · rw [if_neg hn, List.lookup_cons, List.lookup_cons, ih]
      by_cases hkey : key = n
      · simp [hkey, hn]
      · simp [beq_eq_false_iff_ne.2 hkey]

/-- A table of entries with different names has these entries. -/
theorem lookup_tableOf_eq_some_iff {α : Type} {entries : List (WideText × α)}
    (hnames : (entries.map (·.1)).Nodup) {key : WideText} {value : α} :
    (tableOf entries).lookup key = some value ↔ (key, value) ∈ entries := by
  have hall : ∀ table : List (WideText × α),
      (entries.foldl (fun table entry => put entry.1 entry.2 table) table).lookup key = some value ↔
        (key, value) ∈ entries ∨
          key ∉ entries.map (·.1) ∧ table.lookup key = some value := by
    induction entries with
    | nil => simp
    | cons entry rest ih =>
      intro table
      rw [List.map_cons, List.nodup_cons] at hnames
      rw [List.foldl_cons, ih hnames.2, lookup_put, List.map_cons, List.mem_cons, List.mem_cons]
      by_cases hkey : key = entry.1
      · subst hkey
        have hrest : (entry.1, value) ∉ rest := fun h => hnames.1 (List.mem_map.2 ⟨_, h, rfl⟩)
        simp [hrest, hnames.1, Prod.ext_iff, eq_comm]
      · simp [hkey, Prod.ext_iff]
  rw [tableOf, hall]
  simp

/-- The table of rules has the rule that is found by its identifier. -/
theorem lookup_ruleTable {catalog : Catalog} (hids : catalog.ids.Nodup) (id : WideText) :
    catalog.ruleTable.lookup id = catalog.get? id := by
  have hnames : ((catalog.rules.map fun rule => (rule.id, rule)).map (·.1)).Nodup := by
    rw [List.map_map]
    exact hids
  ext rule
  rw [ruleTable, lookup_tableOf_eq_some_iff hnames, List.mem_map, get?_eq_some_iff hids]
  constructor
  · rintro ⟨_, hrule, heq⟩
    cases heq
    exact ⟨hrule, rfl⟩
  · rintro ⟨hrule, rfl⟩
    exact ⟨rule, hrule, rfl⟩

/-- The table of places has the place at which an identifier is found. -/
theorem lookup_placeTable {catalog : Catalog} (hids : catalog.ids.Nodup) (id : WideText) :
    catalog.placeTable.lookup id = catalog.position? id := by
  have hnames :
      ((catalog.rules.zipIdx.map fun entry => (entry.1.id, entry.2)).map (·.1)).Nodup := by
    have hsame : (catalog.rules.zipIdx.map fun entry => (entry.1.id, entry.2)).map (·.1) =
        (catalog.rules.zipIdx.map Prod.fst).map (·.id) := by
      rw [List.map_map, List.map_map]
      rfl
    rw [hsame, List.zipIdx_map_fst]
    exact hids
  ext place
  rw [placeTable, lookup_tableOf_eq_some_iff hnames, position?_eq_some_iff hids, Catalog.ids,
    List.getElem?_map, List.mem_map]
  constructor
  · rintro ⟨⟨rule, _⟩, hrule, heq⟩
    cases heq
    rw [List.mem_zipIdx_iff_getElem?.1 hrule]
    rfl
  · intro h
    obtain ⟨rule, hrule, rfl⟩ := Option.map_eq_some_iff.1 h
    exact ⟨(rule, place), List.mem_zipIdx_iff_getElem?.2 hrule, rfl⟩

theorem lookup_languageTable (catalog : Catalog) (language : Language) :
    catalog.languageTable.lookup language = some (catalog.rulesFor language) := by
  cases language <;> rfl

/-! ## The indexes -/

/-- What the ways into a catalog have to agree on. -/
structure Indexed (catalog : Catalog) : Prop where
  /-- Identifiers are different, and none is blank. -/
  distinct : catalog.ids.Nodup
  stated : ∀ id ∈ catalog.ids, id.blank = false
  /-- What is contained has a rule and a place. -/
  contained : ∀ id, catalog.contains id = true ↔ (catalog.get? id).isSome = true
  placed : ∀ id, (catalog.get? id).isSome = true ↔ (catalog.position? id).isSome = true
  /-- Places are counted in the order of the rules, and lead to them. -/
  position : ∀ id place, catalog.position? id = some place ↔ catalog.ids[place]? = some id
  rule : ∀ id, catalog.get? id = (catalog.position? id).bind fun place => catalog.rules[place]?
  /-- The tables give what the rules are searched for. -/
  ruleTable : ∀ id, catalog.ruleTable.lookup id = catalog.get? id
  placeTable : ∀ id, catalog.placeTable.lookup id = catalog.position? id
  languageTable : ∀ language,
    catalog.languageTable.lookup language = some (catalog.rulesFor language)
  /-- The rules for a tag are those without languages and those with its language. -/
  rulesFor : ∀ tag : Value, catalog.rulesFor (Language.ofValue tag) =
    catalog.rules.filter fun rule =>
      rule.languages = [] ∨ Language.ofValue tag ∈ rule.languages
  /-- Every rule says why it matters. -/
  rationale : ∀ rule ∈ catalog.rules, rule.fix.rationale.blank = false
  /-- Types are those of the rules, each once, in the order of their first use. -/
  types : ∀ type, type ∈ catalog.types ↔ ∃ rule ∈ catalog.rules, rule.type = type
  typesDistinct : catalog.types.Nodup
  typesInOrder : catalog.types.Pairwise fun a b =>
    (catalog.rules.map (·.type)).idxOf a < (catalog.rules.map (·.type)).idxOf b

theorem Built.indexed {catalog : Catalog} (h : catalog.Built) : Indexed catalog where
  distinct := h.nodup_ids
  stated := by
    intro id hid
    obtain ⟨rule, hrule, rfl⟩ := List.mem_map.1 hid
    exact (h.isStatedRule rule hrule).1
  contained := fun id => by rw [Catalog.contains, get?, List.find?_isSome, List.any_eq_true]
  placed := fun id => by
    rw [get?, position?, List.findIdx?_isSome, List.find?_isSome, List.any_eq_true]
  position := fun _ _ => position?_eq_some_iff h.nodup_ids
  rule := fun _ => List.find?_eq_bind_findIdx?_getElem?
  ruleTable := lookup_ruleTable h.nodup_ids
  placeTable := lookup_placeTable h.nodup_ids
  languageTable := lookup_languageTable catalog
  rulesFor := by
    intro tag
    refine List.filter_congr fun rule _ => ?_
    rw [Rule.appliesTo, Bool.eq_iff_iff]
    simp
  rationale := fun rule hrule => (h.isStatedRule rule hrule).2
  types := fun type => by rw [Catalog.types, List.mem_eraseDups, List.mem_map]
  typesDistinct := (pairwise_eraseDups _).imp fun {a b} hlt heq => by
    rw [heq] at hlt
    exact Nat.lt_irrefl _ hlt
  typesInOrder := pairwise_eraseDups _

/-- However often rules have been asked to be left out of a catalog that was read, the ways into it
agree. A request fails just when it has an identifier that no rule has, and the catalog stays as it
is then. Requests for different rules, one after the other, are one request for all of them. -/
theorem indexes_agree_after_removals {document : Value} {catalog : Catalog}
    (h : ofDocument document = .ok catalog) (requests : List (List WideText)) :
    Indexed (catalog.after requests) ∧
      (∀ ids, (∃ unknown, (catalog.after requests).without ids = .error unknown) ↔
        ∃ id ∈ ids, (catalog.after requests).contains id = false) ∧
      (∀ ids unknown, (catalog.after requests).without ids = .error unknown →
        (catalog.after requests).attempt ids = catalog.after requests) ∧
      ∀ first second both, (∀ id ∈ first, id ∉ second) →
        (∀ id, id ∈ both ↔ id ∈ first ∨ id ∈ second) →
        ∀ rest, (∃ middle, (catalog.after requests).without first = .ok middle ∧
          middle.without second = .ok rest) ↔ (catalog.after requests).without both = .ok rest := by
  have hbuilt : (catalog.after requests).Built := Built.after (.read h) requests
  refine ⟨hbuilt.indexed, fun ids => without_fails_iff, fun ids unknown hfails => ?_,
    fun first second both hdisjoint hboth rest => without_without_iff hdisjoint hboth⟩
  rw [attempt, hfails]

theorem indexes_agree_after_removals_from_small :
    ofDocument smallDocument = .ok small ∧
      (small.after [["bang"], ["missing", "quiet"]]).ids = ["go-only", "quiet"] ∧
      Indexed (small.after [["bang"], ["missing", "quiet"]]) :=
  ⟨read_small, by decide +kernel, (indexes_agree_after_removals read_small _).1⟩

end SourceAudit.Catalog
