-- What each reader of a part of a catalog gives: something just for a well-formed part in which
-- everything can be written, and otherwise a fault. A reader is broken off only by a value that
-- cannot be written, or by a pattern.

import SourceAudit.Proofs.WellFormedDocuments

namespace SourceAudit.Catalog

open SourceAudit.Document

/-! ## Values in words -/

/-- The words of a value, where nothing stands for the empty text. -/
def said (value : Value) : WideText :=
  if value.isFalsy then "" else value.shown

theorem textOf_eq_ok_iff {value : Value} {text : WideText} :
    textOf value = .ok text ↔ value.flaw? = none ∧ said value = text := by
  unfold textOf said
  by_cases h : value.isFalsy = true
  · simp [h, Value.flaw?_of_isFalsy h]
  · rw [if_neg h, if_neg h]
    exact Value.words_eq_ok_iff

theorem textOf_eq_error_iff {value : Value} {cause : Breakdown} :
    textOf value = .error cause ↔ value.flaw? = some cause := by
  unfold textOf
  by_cases h : value.isFalsy = true
  · simp [h, Value.flaw?_of_isFalsy h]
  · rw [if_neg h]
    exact Value.words_eq_error_iff

theorem blank_said_eq_false_iff {value : Value} :
    (said value).blank = false ↔ IsStated value := by
  unfold said IsStated
  cases value.isFalsy
  · simp
  · simp [WideText.blank_empty]

theorem saysNothing_eq_ok_iff {value : Value} {answer : Bool} :
    saysNothing value = .ok answer ↔ value.flaw? = none ∧ (said value).blank = answer := by
  unfold saysNothing
  cases h : textOf value with
  | ok text =>
    obtain ⟨hshort, rfl⟩ := textOf_eq_ok_iff.1 h
    simp [Except.map, hshort]
  | error cause =>
    simp [Except.map, textOf_eq_error_iff.1 h]

theorem saysNothing_eq_error_iff {value : Value} {cause : Breakdown} :
    saysNothing value = .error cause ↔ value.flaw? = some cause := by
  rw [← textOf_eq_error_iff]
  unfold saysNothing
  cases textOf value <;> simp [Except.map]

/-! ## Templates -/

theorem writable_wordingsOfTemplate_iff {value : Value} :
    Writable (wordingsOfTemplate value) ↔
      (value.under "rationale").flaw? = none ∧
        (value.under "before").flaw? = none ∧
          (value.under "after").flaw? = none := by
  simp [Writable, wordingsOfTemplate]

/-- The template that a mapping describes. -/
def templateOf (value : Value) : FixTemplate where
  rationale := (said (value.under "rationale")).trim
  before := (said (value.under "before")).trimLineFeeds
  after := (said (value.under "after")).trimLineFeeds

/-- A template is read from a well-formed one that can be written. -/
theorem readFix?_eq_some_iff {value : Value} {fix : FixTemplate} :
    readFix? value = .ok (some fix) ↔
      IsTemplate value ∧ Writable (wordingsOfTemplate value) ∧ templateOf value = fix := by
  rw [writable_wordingsOfTemplate_iff, IsTemplate, templateOf]
  unfold readFix?
  cases hentries : value.entries? with
  | none => simp
  | some entries =>
    simp only [Value.under_of_entries? hentries, bind_eq_ok, textOf_eq_ok_iff,
      ← blank_said_eq_false_iff, Option.isSome_some, true_and]
    constructor
    · rintro ⟨rationale, ⟨hrationale, rfl⟩, h⟩
      split at h
      · cases h
      · next hblank =>
        simp only [bind_eq_ok, textOf_eq_ok_iff] at h
        obtain ⟨before, ⟨hbefore, rfl⟩, after, ⟨hafter, rfl⟩, h⟩ := h
        exact ⟨Bool.eq_false_iff.2 hblank, ⟨hrationale, hbefore, hafter⟩,
          Option.some.inj (Except.ok.inj h)⟩
    · rintro ⟨hblank, ⟨hrationale, hbefore, hafter⟩, rfl⟩
      refine ⟨_, ⟨hrationale, rfl⟩, ?_⟩
      rw [if_neg (Bool.eq_false_iff.1 hblank), textOf_eq_ok_iff.2 ⟨hbefore, rfl⟩,
        textOf_eq_ok_iff.2 ⟨hafter, rfl⟩]
      rfl

theorem brokenBy_of_readFix? {value : Value} {cause : Breakdown}
    (h : readFix? value = .error cause) : BrokenBy (wordingsOfTemplate value) cause := by
  unfold readFix? at h
  cases hentries : value.entries? with
  | none => rw [hentries] at h; cases h
  | some entries =>
    rw [hentries] at h
    simp only [← Value.under_of_entries? hentries, bind_eq_error] at h
    have hbroken : ∀ key ∈ ["rationale", "before", "after"],
        textOf (value.under key) = .error cause → BrokenBy (wordingsOfTemplate value) cause :=
      fun key hkey h => ⟨_, List.mem_map_of_mem hkey, textOf_eq_error_iff.1 h⟩
    rcases h with h | ⟨rationale, -, h⟩
    · exact hbroken "rationale" (by simp) h
    · split at h
      · cases h
      · simp only [bind_eq_error] at h
        rcases h with h | ⟨before, -, h | ⟨after, -, h⟩⟩
        · exact hbroken "before" (by simp) h
        · exact hbroken "after" (by simp) h
        · cases h

/-! ## Templates by their names -/

/-- An entry of a mapping of templates that is read. -/
def IsReadableFix (entry : Value × Value) : Prop :=
  IsTemplate entry.2 ∧ Writable (entry.1 :: wordingsOfTemplate entry.2)

/-- The templates of a mapping by their names, behind those that have been read. -/
def templatesFrom (done : List (WideText × FixTemplate)) (entries : List (Value × Value)) :
    List (WideText × FixTemplate) :=
  entries.foldl (fun done entry => put entry.1.shown (templateOf entry.2) done) done

theorem readFixesFrom_eq_ok_iff {done fixes : List (WideText × FixTemplate)}
    {entries : List (Value × Value)} :
    readFixesFrom done entries = .ok fixes ↔
      (∀ entry ∈ entries, IsReadableFix entry) ∧ templatesFrom done entries = fixes := by
  induction entries generalizing done with
  | nil => simp [readFixesFrom, templatesFrom]
  | cons entry rest ih =>
    obtain ⟨name, value⟩ := entry
    rw [List.forall_mem_cons, readFixesFrom]
    simp only [bind_eq_ok, mapError_eq_ok, Value.words_eq_ok_iff]
    constructor
    · rintro ⟨_, ⟨hname, rfl⟩, fix?, hfix, h⟩
      cases fix? with
      | none => cases h
      | some fix =>
        obtain ⟨htemplate, hwritable, rfl⟩ := readFix?_eq_some_iff.1 hfix
        obtain ⟨hrest, hfixes⟩ := ih.1 h
        exact ⟨⟨⟨htemplate, List.forall_mem_cons.2 ⟨hname, hwritable⟩⟩, hrest⟩, hfixes⟩
    · rintro ⟨⟨⟨htemplate, hwritable⟩, hrest⟩, hfixes⟩
      obtain ⟨hname, hwritable⟩ := List.forall_mem_cons.1 hwritable
      exact ⟨_, ⟨hname, rfl⟩, _, readFix?_eq_some_iff.2 ⟨htemplate, hwritable, rfl⟩,
        ih.2 ⟨hrest, hfixes⟩⟩

theorem brokenBy_of_readFixesFrom {done : List (WideText × FixTemplate)}
    {entries : List (Value × Value)} {cause : Breakdown}
    (h : readFixesFrom done entries = .error (.broken cause)) :
    BrokenBy (entries.flatMap fun entry => entry.1 :: wordingsOfTemplate entry.2) cause := by
  induction entries generalizing done with
  | nil => cases h
  | cons entry rest ih =>
    obtain ⟨name, value⟩ := entry
    rw [List.flatMap_cons]
    rw [readFixesFrom] at h
    simp only [bind_eq_error, mapError_eq_error, CatalogFault.broken.injEq] at h
    rcases h with ⟨_, hname, rfl⟩ | ⟨words, -, ⟨_, hfix, rfl⟩ | ⟨fix?, -, h⟩⟩
    · exact ⟨name, by simp, Value.words_eq_error_iff.1 hname⟩
    · exact (brokenBy_of_readFix? hfix).mono fun value hvalue => by simp [hvalue]
    · cases fix? with
      | none => cases h
      | some fix => exact (ih h).mono (List.subset_append_right _ _)

theorem readFixes_eq_ok_iff {value : Value} {fixes : List (WideText × FixTemplate)} :
    readFixes value = .ok fixes ↔
      (value.isFalsy = true ∨ value.entries?.isSome = true) ∧
        (∀ entry ∈ value.entries, IsReadableFix entry) ∧
          templatesFrom [] value.entries = fixes := by
  unfold readFixes Value.entries
  cases value.entries? with
  | some entries => simp [readFixesFrom_eq_ok_iff]
  | none => cases value.isFalsy <;> simp [templatesFrom]

theorem brokenBy_of_readFixes {value : Value} {cause : Breakdown}
    (h : readFixes value = .error (.broken cause)) :
    BrokenBy (value.entries.flatMap fun entry => entry.1 :: wordingsOfTemplate entry.2) cause := by
  unfold readFixes at h
  unfold Value.entries
  cases hentries : value.entries? with
  | some entries =>
    rw [hentries] at h
    exact brokenBy_of_readFixesFrom h
  | none =>
    rw [hentries] at h
    dsimp only at h
    split at h <;> cases h

theorem mem_names_put {α : Type} {name other : WideText} {value : α} {table : List (WideText × α)} :
    other ∈ (put name value table).map (·.1) ↔ other ∈ table.map (·.1) ∨ other = name := by
  induction table with
  | nil => simp [put]
  | cons first rest ih =>
    unfold put
    split
    · next h => simp [h, or_comm]
    · rw [List.map_cons, List.map_cons, List.mem_cons, List.mem_cons, ih, or_assoc]

theorem mem_names_templatesFrom {name : WideText} {done : List (WideText × FixTemplate)}
    {entries : List (Value × Value)} :
    name ∈ (templatesFrom done entries).map (·.1) ↔
      name ∈ done.map (·.1) ∨ name ∈ entries.map (·.1.shown) := by
  induction entries generalizing done with
  | nil => simp [templatesFrom]
  | cons entry rest ih =>
    rw [templatesFrom, List.foldl_cons, ← templatesFrom, ih, mem_names_put, List.map_cons,
      List.mem_cons, or_assoc]

/-! ## Parts of a rule -/

theorem readLanguage_eq_ok_iff {tag : Value} {language : Language} :
    readLanguage tag = .ok language ↔
      IsLanguage tag ∧ tag.flaw? = none ∧ Language.ofValue tag = language := by
  unfold readLanguage IsLanguage
  simp only [bind_eq_ok, mapError_eq_ok, Value.words_eq_ok_iff]
  constructor
  · rintro ⟨_, ⟨hshort, rfl⟩, h⟩
    split at h
    · next hlanguage =>
      split at h
      · next hnamed =>
        cases h
        exact ⟨.inr hnamed, hshort, hlanguage⟩
      · cases h
    · next hknown =>
      cases h
      exact ⟨.inl hknown, hshort, rfl⟩
  · rintro ⟨hlanguage, hshort, rfl⟩
    refine ⟨_, ⟨hshort, rfl⟩, ?_⟩
    split
    · next hunknown =>
      rcases hlanguage with hknown | hnamed
      · exact absurd hunknown hknown
      · rw [hunknown]
        exact if_pos hnamed
    · rfl

theorem brokenBy_of_readLanguage {tag : Value} {cause : Breakdown}
    (h : readLanguage tag = .error (.broken cause)) :
    tag.flaw? = some cause := by
  unfold readLanguage at h
  simp only [bind_eq_error, mapError_eq_error, RuleFault.broken.injEq] at h
  rcases h with ⟨_, hwords, rfl⟩ | ⟨words, -, h⟩
  · exact Value.words_eq_error_iff.1 hwords
  · split at h
    · split at h <;> cases h
    · cases h

theorem exists_readLanguages_iff {value : Value} :
    (∃ languages, readLanguages value = .ok languages) ↔
      AreLanguages value ∧ Writable value.items := by
  unfold readLanguages AreLanguages
  split
  · simp [Value.items, Value.items?, Writable]
  · next hnull =>
    rw [or_iff_right hnull]
    unfold Value.items
    cases value.items? with
    | none => simp
    | some tags =>
      have htags : (∃ languages, (tags.mapM readLanguage).map Language.sorted = .ok languages) ↔
          ∃ languages, tags.mapM readLanguage = .ok languages := by
        cases tags.mapM readLanguage <;> simp [Except.map]
      rw [htags, exists_mapM_eq_ok_iff]
      simp [readLanguage_eq_ok_iff, Writable, forall_and]

theorem brokenBy_of_readLanguages {value : Value} {cause : Breakdown}
    (h : readLanguages value = .error (.broken cause)) : BrokenBy value.items cause := by
  unfold readLanguages at h
  split at h
  · cases h
  · cases htags : value.items? with
    | none => rw [htags] at h; cases h
    | some tags =>
      rw [htags] at h
      dsimp only at h
      cases hread : tags.mapM readLanguage with
      | ok languages => rw [hread] at h; cases h
      | error fault =>
        rw [hread] at h
        cases h
        obtain ⟨tag, htag, hfault⟩ := exists_of_mapM_eq_error hread
        rw [Value.items, htags]
        exact ⟨tag, htag, brokenBy_of_readLanguage hfault⟩

theorem exists_readRulePattern_iff {source ignoreCase : Value} :
    (∃ pattern, readRulePattern source ignoreCase = .ok pattern) ↔
      ∃ pattern, Pattern.compile source.shown (!ignoreCase.isFalsy) = .ok pattern ∧
        pattern.matchesEmpty = false := by
  unfold readRulePattern
  split
  · next h => simp [h]
  · next h => simp [h]
  · next pattern h =>
    rw [h]
    cases hempty : pattern.matchesEmpty <;> simp [hempty]

theorem compile_of_readRulePattern {source ignoreCase : Value} {cause : Breakdown}
    (h : readRulePattern source ignoreCase = .error (.broken cause)) :
    Pattern.compile source.shown (!ignoreCase.isFalsy) = .error (.broken cause) := by
  unfold readRulePattern at h
  split at h
  · cases h
  · next hcompile =>
    cases h
    exact hcompile
  · split at h <;> cases h

theorem referencesOf_eq_ok_iff {value : Value} {items : List Value} :
    referencesOf value = .ok items ↔
      (value.isFalsy = true ∨ value.items?.isSome = true) ∧ value.items = items := by
  unfold referencesOf Value.items
  cases value.items? with
  | some items => simp
  | none => cases value.isFalsy <;> simp

theorem referencesOf_ne_broken {value : Value} {cause : Breakdown} :
    referencesOf value ≠ .error (.broken cause) := by
  intro h
  unfold referencesOf at h
  split at h
  · cases h
  · split at h <;> cases h

theorem exists_readWeakness_iff {value : Value} :
    (∃ cwe, readWeakness value = .ok cwe) ↔ value.flaw? = none := by
  unfold readWeakness
  by_cases h : value.isFalsy = true
  · simp [h, Value.flaw?_of_isFalsy h]
  · rw [if_neg h, Value.words]
    cases value.flaw? <;> simp [Except.map]

theorem brokenBy_of_readWeakness {value : Value} {cause : Breakdown}
    (h : readWeakness value = .error cause) :
    value.flaw? = some cause := by
  unfold readWeakness at h
  split at h
  · cases h
  · cases hwords : value.words with
    | ok words => rw [hwords] at h; cases h
    | error other =>
      rw [hwords] at h
      cases h
      exact Value.words_eq_error_iff.1 hwords

/-! ## The template of a rule -/

theorem writable_wordingsOfTemplate_null : Writable (wordingsOfTemplate .null) := by
  rw [writable_wordingsOfTemplate_iff]
  decide

/-- A rule gets a template that is its own, or, without one, the template for its type. -/
theorem readRuleFix_eq_ok_iff {fixes : List (WideText × FixTemplate)} {own : Value}
    {type : WideText} {fix : FixTemplate} :
    readRuleFix fixes own type = .ok fix ↔
      (own = .null ∧ fixes.lookup type = some fix ∨
        own ≠ .null ∧ IsTemplate own ∧ templateOf own = fix) ∧
        Writable (wordingsOfTemplate own) := by
  unfold readRuleFix
  split
  · cases fixes.lookup type <;> simp [writable_wordingsOfTemplate_null]
  · next hnull =>
    simp only [bind_eq_ok, mapError_eq_ok]
    constructor
    · rintro ⟨fix?, hfix, h⟩
      cases fix? with
      | none => cases h
      | some other =>
        cases h
        obtain ⟨htemplate, hwritable, hfix⟩ := readFix?_eq_some_iff.1 hfix
        exact ⟨.inr ⟨hnull, htemplate, hfix⟩, hwritable⟩
    · rintro ⟨⟨hown, -⟩ | ⟨-, htemplate, hfix⟩, hwritable⟩
      · exact absurd hown hnull
      · exact ⟨_, readFix?_eq_some_iff.2 ⟨htemplate, hwritable, hfix⟩, rfl⟩

theorem brokenBy_of_readRuleFix {fixes : List (WideText × FixTemplate)} {own : Value}
    {type : WideText} {cause : Breakdown} (h : readRuleFix fixes own type = .error (.broken cause)) :
    BrokenBy (wordingsOfTemplate own) cause := by
  unfold readRuleFix at h
  split at h
  · split at h <;> cases h
  · simp only [bind_eq_error, mapError_eq_error, RuleFault.broken.injEq] at h
    rcases h with ⟨_, hfix, rfl⟩ | ⟨fix?, -, h⟩
    · exact brokenBy_of_readFix? hfix
    · cases fix? <;> cases h

end SourceAudit.Catalog
