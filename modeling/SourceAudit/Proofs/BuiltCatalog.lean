-- Catalogs as they come about: read from a document, and rules left out since. Whatever has been
-- left out, no two rules have the same identifier, so an identifier names one rule and one place.

import SourceAudit.Catalog.FromDocument
import SourceAudit.Catalog.Packaged
import SourceAudit.Proofs.WideTexts
import Mathlib.Data.List.Nodup

namespace SourceAudit.Catalog

/-- A catalog that was read from a document and from which rules have been left out any number of
times. -/
inductive Built : Catalog → Prop
  | read {value : Document.Value} {catalog : Catalog} :
      ofDocument value = .ok catalog → Built catalog
  | without {catalog rest : Catalog} {ids : List WideText} :
      Built catalog → catalog.without ids = .ok rest → Built rest

/-! ## Identifiers of a catalog that is read -/

/-- Rules that are read have identifiers of their own, and none that comes before. -/
theorem readRulesFrom_ids {fixes : List (WideText × FixTemplate)} {seen : List WideText}
    {index : Nat} {items : List Document.Value} {rules : List Rule}
    (h : readRulesFrom fixes seen index items = .ok rules) :
    (rules.map (·.id)).Nodup ∧ ∀ rule ∈ rules, rule.id ∉ seen := by
  induction items generalizing seen index rules with
  | nil => cases h; simp
  | cons item rest ih =>
    unfold readRulesFrom at h
    cases hread : readDefinition fixes index item with
    | error fault => rw [hread] at h; cases h
    | ok rule =>
      rw [hread] at h
      dsimp only [bind, Except.bind] at h
      split at h
      · cases h
      · next hseen =>
        cases hothers : readRulesFrom fixes (rule.id :: seen) (index + 1) rest with
        | error fault => rw [hothers] at h; cases h
        | ok others =>
          rw [hothers] at h
          cases h
          obtain ⟨hnodup, hfresh⟩ := ih hothers
          refine ⟨?_, ?_⟩
          · rw [List.map_cons, List.nodup_cons]
            refine ⟨fun hmem => ?_, hnodup⟩
            obtain ⟨other, hother, hid⟩ := List.mem_map.1 hmem
            exact hfresh other hother (hid ▸ List.mem_cons_self)
          · intro r hr
            rcases List.mem_cons.1 hr with rfl | hr
            · simpa using hseen
            · exact fun hmem => hfresh r hr (List.mem_cons_of_mem _ hmem)

theorem nodup_ids_of_ofDocument {value : Document.Value} {catalog : Catalog}
    (h : ofDocument value = .ok catalog) : catalog.ids.Nodup := by
  unfold ofDocument at h
  split at h
  · cases hfixes : readFixes (Document.Value.field _ "fixes") with
    | error fault => rw [hfixes] at h; cases h
    | ok fixes =>
      rw [hfixes] at h
      dsimp only [bind, Except.bind] at h
      split at h
      · next first rest _ =>
        cases hrules : readRulesFrom fixes [] 0 (first :: rest) with
        | error fault => rw [hrules] at h; cases h
        | ok rules =>
          rw [hrules] at h
          cases h
          exact (readRulesFrom_ids hrules).1
      · cases h
  · cases h

/-! ## Leaving rules out -/

theorem contains_iff {catalog : Catalog} {id : WideText} :
    catalog.contains id = true ↔ id ∈ catalog.ids := by
  simp [contains, ids]

theorem unknownIds_eq_nil_iff {catalog : Catalog} {ids : List WideText} :
    catalog.unknownIds ids = [] ↔ ∀ id ∈ ids, id ∈ catalog.ids := by
  simp only [List.eq_nil_iff_forall_not_mem, unknownIds, WideText.sorted,
    List.mem_mergeSort, List.mem_eraseDups,
    List.mem_filter, Bool.not_eq_true', ← contains_iff, not_and, Bool.not_eq_false]

/-- The catalog without the rules that have one of the identifiers. -/
def dropping (catalog : Catalog) (ids : List WideText) : Catalog :=
  { catalog with rules := catalog.rules.filter fun rule => !ids.contains rule.id }

/-- Rules can be left out when all of them are there. -/
theorem without_eq_ok_iff {catalog rest : Catalog} {ids : List WideText} :
    catalog.without ids = .ok rest ↔
      (∀ id ∈ ids, id ∈ catalog.ids) ∧ rest = catalog.dropping ids := by
  rw [← unknownIds_eq_nil_iff]
  unfold without
  split
  · next h => rw [h]; simp [eq_comm, dropping]
  · next h =>
    simp only [reduceCtorEq, false_iff, not_and]
    exact fun hnil => absurd hnil h

/-- The identifiers of the packaged rules are texts of characters. -/
theorem texts_packaged : ∀ rule ∈ packaged.rules, ∃ id : String, rule.id = id := by
  unfold packaged
  rw [List.forall_mem_map]
  exact fun entry _ => ⟨entry.id, rfl⟩

theorem texts_dropping {catalog : Catalog} (h : ∀ rule ∈ catalog.rules, ∃ id : String, rule.id = id)
    (ids : List WideText) : ∀ rule ∈ (catalog.dropping ids).rules, ∃ id : String, rule.id = id :=
  fun rule hrule => h rule (List.mem_filter.1 hrule).1

theorem Built.nodup_ids {catalog : Catalog} (h : catalog.Built) : catalog.ids.Nodup := by
  induction h with
  | read h => exact nodup_ids_of_ofDocument h
  | without _ h ih =>
    obtain ⟨_, rfl⟩ := without_eq_ok_iff.1 h
    exact ih.sublist (List.filter_sublist.map _)

/-! ## What an identifier names -/

theorem mem_of_get? {catalog : Catalog} {id : WideText} {rule : Rule}
    (h : catalog.get? id = some rule) : rule ∈ catalog.rules ∧ rule.id = id :=
  ⟨List.mem_of_find?_eq_some h, by simpa using List.find?_some h⟩

section Unique

variable {catalog : Catalog} (hids : catalog.ids.Nodup)
include hids

/-- Rules with the same identifier are the same rule. -/
theorem rule_eq_of_id_eq {a b : Rule} (ha : a ∈ catalog.rules) (hb : b ∈ catalog.rules)
    (h : a.id = b.id) : a = b :=
  List.inj_on_of_nodup_map hids ha hb h

theorem get?_of_mem {rule : Rule} (h : rule ∈ catalog.rules) :
    catalog.get? rule.id = some rule := by
  unfold get?
  cases hfind : catalog.rules.find? (·.id == rule.id) with
  | none => simpa using List.find?_eq_none.1 hfind rule h
  | some other =>
    obtain ⟨hother, hid⟩ := mem_of_get? hfind
    rw [rule_eq_of_id_eq hids hother h hid]

theorem get?_eq_some_iff {id : WideText} {rule : Rule} :
    catalog.get? id = some rule ↔ rule ∈ catalog.rules ∧ rule.id = id := by
  constructor
  · exact mem_of_get?
  · rintro ⟨h, rfl⟩
    exact get?_of_mem hids h

theorem position?_getElem {i : Nat} (h : i < catalog.rules.length) :
    catalog.position? catalog.rules[i].id = some i := by
  unfold position?
  rw [List.findIdx?_eq_some_iff_getElem]
  refine ⟨h, by simp, ?_⟩
  intro j hj
  have hne : catalog.rules[j].id ≠ catalog.rules[i].id := by
    intro hid
    have hrule := rule_eq_of_id_eq hids (List.getElem_mem _) (List.getElem_mem _) hid
    have := ((hids.of_map _).getElem_inj_iff).1 hrule
    omega
  simpa using hne

theorem exists_position?_of_mem {rule : Rule} (h : rule ∈ catalog.rules) :
    ∃ place, catalog.position? rule.id = some place := by
  obtain ⟨i, hi, rfl⟩ := List.getElem_of_mem h
  exact ⟨i, position?_getElem hids hi⟩

/-- A rule that stands before another one has the lower place. -/
theorem pairwise_position? :
    catalog.rules.Pairwise fun a b => ∀ p q,
      catalog.position? a.id = some p → catalog.position? b.id = some q → p < q := by
  rw [List.pairwise_iff_getElem]
  intro i j hi hj hij p q hp hq
  rw [position?_getElem hids hi] at hp
  rw [position?_getElem hids hj] at hq
  cases hp
  cases hq
  exact hij

/-- The rules for a language come in the order of their places. -/
theorem rulesFor_pairwise (language : Language) :
    (catalog.rulesFor language).Pairwise fun a b =>
      ∃ p q, catalog.position? a.id = some p ∧ catalog.position? b.id = some q ∧ p < q := by
  refine ((pairwise_position? hids).filter (·.appliesTo language)).imp_of_mem ?_
  intro a b ha hb hab
  obtain ⟨p, hp⟩ := exists_position?_of_mem hids (List.mem_filter.1 ha).1
  obtain ⟨q, hq⟩ := exists_position?_of_mem hids (List.mem_filter.1 hb).1
  exact ⟨p, q, hp, hq, hab p q hp hq⟩

end Unique

/-! ## A small catalog -/

/-- A document with a rule that also has empty hits, a rule for one language, and a rule of the
type that stands for clean files. -/
def smallDocument : Document.Value :=
  .map [
    (.text "fixes", .map [(.text "Bang", .map [(.text "rationale", .text "Keep it quiet.")])]),
    (.text "rules", .list [
      .map [(.text "id", .text "bang"), (.text "type", .text "Bang"),
        (.text "severity", .text "high"), (.text "pattern", .text "(?=!)|!+"),
        (.text "description", .text "Loud.")],
      .map [(.text "id", .text "go-only"), (.text "type", .text "Bang"),
        (.text "severity", .text "low"), (.text "pattern", .text "b"),
        (.text "description", .text "A letter."), (.text "languages", .list [.text "go"])],
      .map [(.text "id", .text "quiet"), (.text "type", .text "No Issues Detected"),
        (.text "severity", .text "low"), (.text "pattern", .text "a"),
        (.text "description", .text "Nothing."),
        (.text "fix", .map [(.text "rationale", .text "None.")])]])]

/-- The catalog of the small document. -/
def small : Catalog :=
  match ofDocument smallDocument with
  | .ok catalog => catalog
  | .error _ => ⟨[], []⟩

theorem read_small : ofDocument smallDocument = .ok small := by
  have hok : (ofDocument smallDocument).isOk = true := by decide +kernel
  unfold small
  cases h : ofDocument smallDocument with
  | ok catalog => rfl
  | error fault => rw [h] at hok; cases hok

theorem small_built : small.Built :=
  .read read_small

theorem small_texts : ∀ rule ∈ small.rules, ∃ id : String, rule.id = id := by
  have htexts : ∀ rule ∈ small.rules, rule.id.text?.isSome = true := by decide +kernel
  intro rule hrule
  obtain ⟨id, hid⟩ := Option.isSome_iff_exists.1 (htexts rule hrule)
  exact ⟨id, WideText.text?_eq_some_iff.1 hid⟩

/-! ## A catalog with a rule that cannot be named -/

/-- A document with a rule whose identifier is half a character, and one with an identifier of
characters. -/
def halvedDocument : Document.Value :=
  .map [
    (.text "fixes", .map [(.text "Bang", .map [(.text "rationale", .text "Keep it quiet.")])]),
    (.text "rules", .list [
      .map [(.text "id", .text ⟨[⟨0xD800, by decide⟩]⟩), (.text "type", .text "Bang"),
        (.text "severity", .text "low"), (.text "pattern", .text "!"),
        (.text "description", .text "Loud.")],
      .map [(.text "id", .text "bang"), (.text "type", .text "Bang"),
        (.text "severity", .text "high"), (.text "pattern", .text "b"),
        (.text "description", .text "A letter.")]])]

/-- The catalog of that document. -/
def halved : Catalog :=
  match ofDocument halvedDocument with
  | .ok catalog => catalog
  | .error _ => ⟨[], []⟩

theorem halved_built : halved.Built := by
  have hok : (ofDocument halvedDocument).isOk = true := by decide +kernel
  have hread : ofDocument halvedDocument = .ok halved := by
    unfold halved
    cases h : ofDocument halvedDocument with
    | ok catalog => rfl
    | error fault => rw [h] at hok; cases hok
  exact .read hread

end SourceAudit.Catalog
