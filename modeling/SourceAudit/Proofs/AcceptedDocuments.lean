-- A document is read as a catalog just when it is well-formed and everything that is to be put into
-- words can be. A reading is broken off only for a number that is too long, for a value that is
-- nested too deeply, or by a pattern; all of these happen to documents that are well-formed.

import SourceAudit.Proofs.CatalogReadings

namespace SourceAudit.Catalog

open SourceAudit.Document

/-! ## One rule -/

theorem missingKeys_eq_ok_iff {entries : List (Value × Value)} {keys missing : List String} :
    missingKeys entries keys = .ok missing ↔
      (∀ key ∈ keys, (Value.field entries key).flaw? = none) ∧
        keys.filter (fun key => (said (Value.field entries key)).blank) = missing := by
  induction keys generalizing missing with
  | nil => simp [missingKeys]
  | cons key rest ih =>
    rw [missingKeys, List.forall_mem_cons]
    simp only [bind_eq_ok, saysNothing_eq_ok_iff]
    constructor
    · rintro ⟨_, ⟨hshort, rfl⟩, others, hothers, h⟩
      obtain ⟨hrest, rfl⟩ := ih.1 hothers
      refine ⟨⟨hshort, hrest⟩, ?_⟩
      rw [List.filter_cons]
      exact Except.ok.inj h
    · rintro ⟨⟨hshort, hrest⟩, rfl⟩
      refine ⟨_, ⟨hshort, rfl⟩, _, ih.2 ⟨hrest, rfl⟩, ?_⟩
      rw [List.filter_cons]
      rfl

theorem severity_isSome_iff {value : Value} :
    (∃ severity, Severity.ofValue? value = some severity) ↔
      ∃ level : Severity, value.shown.trim.lowercase = level.name := by
  unfold Severity.ofValue? Severity.ofText?
  rw [← Option.isSome_iff_exists, List.find?_isSome]
  constructor
  · rintro ⟨level, -, h⟩
    exact ⟨level, (of_decide_eq_true h).symm⟩
  · rintro ⟨level, h⟩
    exact ⟨level, by cases level <;> decide, decide_eq_true h.symm⟩

section Definition

variable {fixes : List (WideText × FixTemplate)} {item : Value} {entries : List (Value × Value)}
  {rule : Rule} {cause : Breakdown}

/-- The parts of a definition that a rule is made of. -/
theorem readRule_eq_ok_iff (hentries : item.entries? = some entries) :
    readRule fixes entries = .ok rule ↔
      ∃ severity languages pattern fix cwe references,
        Severity.ofValue? (item.under "severity") = some severity ∧
        readLanguages (item.under "languages") = .ok languages ∧
        readRulePattern (item.under "pattern") (item.under "ignore_case") = .ok pattern ∧
        readRuleFix fixes (item.under "fix") (item.under "type").shown.trim = .ok fix ∧
        ((item.under "references").isFalsy = true ∨
          (item.under "references").items?.isSome = true) ∧
        readWeakness (item.under "cwe") = .ok cwe ∧
        (item.under "references").items.mapM Value.words = .ok references ∧
        rule = {
          id := idOf item
          type := (item.under "type").shown.trim
          severity := severity
          languages := languages
          pattern := pattern
          description := (item.under "description").shown.trim
          fix := fix
          cwe := cwe
          references := references } := by
  unfold readRule
  simp only [Value.under_of_entries? hentries, idOf]
  cases Severity.ofValue? (Value.field entries "severity") with
  | none => simp
  | some severity =>
    simp only [bind_eq_ok, mapError_eq_ok, referencesOf_eq_ok_iff]
    constructor
    · rintro ⟨languages, hlanguages, pattern, hpattern, fix, hfix, _, ⟨hlist, rfl⟩, cwe, hcwe,
        references, hreferences, h⟩
      exact ⟨severity, languages, pattern, fix, cwe, references, rfl, hlanguages, hpattern, hfix,
        hlist, hcwe, hreferences, (Except.ok.inj h).symm⟩
    · rintro ⟨_, languages, pattern, fix, cwe, references, hseverity, hlanguages, hpattern, hfix,
        hlist, hcwe, hreferences, rfl⟩
      cases hseverity
      exact ⟨languages, hlanguages, pattern, hpattern, fix, hfix, _, ⟨hlist, rfl⟩, cwe, hcwe,
        references, hreferences, rfl⟩

/-- What is known of a definition from which a rule is read. -/
theorem readDefinition_eq_ok_iff {index : Nat} :
    readDefinition fixes index item = .ok rule ↔
      ∃ entries, item.entries? = some entries ∧
        (∀ key ∈ requiredKeys, IsStated (item.under key)) ∧
        Writable (requiredKeys.map item.under) ∧ readRule fixes entries = .ok rule := by
  unfold readDefinition
  cases hentries : item.entries? with
  | none => simp
  | some entries =>
    have hkeys : missingKeys entries requiredKeys = .ok [] ↔
        (∀ key ∈ requiredKeys, IsStated (item.under key)) ∧
          Writable (requiredKeys.map item.under) := by
      simp only [missingKeys_eq_ok_iff, ← Value.under_of_entries? hentries, List.filter_eq_nil_iff,
        Bool.not_eq_true, blank_said_eq_false_iff, Writable, List.forall_mem_map]
      exact and_comm
    simp only [bind_eq_ok, mapError_eq_ok]
    constructor
    · rintro ⟨missing, hmissing, h⟩
      split at h
      · next hempty =>
        rw [List.isEmpty_iff.1 hempty] at hmissing
        obtain ⟨hstated, hwritable⟩ := hkeys.1 hmissing
        exact ⟨entries, rfl, hstated, hwritable, mapError_eq_ok.1 h⟩
      · cases h
    · rintro ⟨_, hsame, hstated, hwritable, h⟩
      cases hsame
      refine ⟨[], hkeys.2 ⟨hstated, hwritable⟩, ?_⟩
      rw [if_pos List.isEmpty_nil]
      exact mapError_eq_ok.2 h

theorem wordingsOfRule_eq :
    wordingsOfRule item = requiredKeys.map item.under ++ [item.under "cwe"] ++
      (item.under "languages").items ++ wordingsOfTemplate (item.under "fix") ++
        (item.under "references").items := rfl

theorem writable_wordingsOfRule_iff :
    Writable (wordingsOfRule item) ↔
      Writable (requiredKeys.map item.under) ∧ (item.under "cwe").flaw? = none ∧
        Writable (item.under "languages").items ∧
          Writable (wordingsOfTemplate (item.under "fix")) ∧
            Writable (item.under "references").items := by
  rw [wordingsOfRule_eq]
  simp only [Writable, List.forall_mem_append, List.forall_mem_singleton, and_assoc]

/-- A rule is read from a well-formed definition that can be written. -/
theorem exists_readDefinition_iff {names : List WideText} (index : Nat)
    (hnames : ∀ name, (fixes.lookup name).isSome = true ↔ name ∈ names) :
    (∃ rule, readDefinition fixes index item = .ok rule) ↔
      IsRule names item ∧ Writable (wordingsOfRule item) := by
  rw [writable_wordingsOfRule_iff]
  constructor
  · rintro ⟨rule, h⟩
    obtain ⟨entries, hentries, hstated, hkeys, h⟩ := readDefinition_eq_ok_iff.1 h
    obtain ⟨severity, languages, pattern, fix, cwe, references, hseverity, hlanguages, hpattern,
      hfix, hlist, hcwe, hreferences, -⟩ := (readRule_eq_ok_iff hentries).1 h
    obtain ⟨hlanguages, htags⟩ := exists_readLanguages_iff.1 ⟨languages, hlanguages⟩
    obtain ⟨hfix, htemplate⟩ := readRuleFix_eq_ok_iff.1 hfix
    refine ⟨⟨?_, hstated, severity_isSome_iff.1 ⟨severity, hseverity⟩, hlanguages,
      exists_readRulePattern_iff.1 ⟨pattern, hpattern⟩, ?_, hlist⟩, hkeys,
      exists_readWeakness_iff.1 ⟨cwe, hcwe⟩, htags, htemplate,
      exists_mapM_words_iff.1 ⟨references, hreferences⟩⟩
    · rw [hentries]
      rfl
    · rcases hfix with ⟨hnull, hlookup⟩ | ⟨hown, hfix, -⟩
      · exact .inl ⟨hnull, (hnames _).1 (by rw [hlookup]; rfl)⟩
      · exact .inr ⟨hown, hfix⟩
  · rintro ⟨hrule, hkeys, hcwe, htags, htemplate, hreferences⟩
    obtain ⟨entries, hentries⟩ := Option.isSome_iff_exists.1 hrule.mapping
    obtain ⟨severity, hseverity⟩ := severity_isSome_iff.2 hrule.severity
    obtain ⟨languages, hlanguages⟩ := exists_readLanguages_iff.2 ⟨hrule.languages, htags⟩
    obtain ⟨pattern, hpattern⟩ := exists_readRulePattern_iff.2 hrule.pattern
    obtain ⟨cwe, hcwe⟩ := exists_readWeakness_iff.2 hcwe
    obtain ⟨references, hreferences⟩ := exists_mapM_words_iff.2 hreferences
    have hfix : ∃ fix, readRuleFix fixes (item.under "fix")
        (item.under "type").shown.trim = .ok fix := by
      rcases hrule.fix with ⟨hnull, hname⟩ | ⟨hown, hfix⟩
      · obtain ⟨fix, hlookup⟩ := Option.isSome_iff_exists.1 ((hnames _).2 hname)
        exact ⟨fix, readRuleFix_eq_ok_iff.2 ⟨.inl ⟨hnull, hlookup⟩, htemplate⟩⟩
      · exact ⟨_, readRuleFix_eq_ok_iff.2 ⟨.inr ⟨hown, hfix, rfl⟩, htemplate⟩⟩
    obtain ⟨fix, hfix⟩ := hfix
    exact ⟨_, readDefinition_eq_ok_iff.2 ⟨entries, hentries, hrule.stated, hkeys,
      (readRule_eq_ok_iff hentries).2 ⟨severity, languages, pattern, fix, cwe, references,
        hseverity, hlanguages, hpattern, hfix, hrule.references, hcwe, hreferences, rfl⟩⟩⟩

theorem id_of_readDefinition {index : Nat} (h : readDefinition fixes index item = .ok rule) :
    rule.id = idOf item := by
  obtain ⟨entries, hentries, -, -, h⟩ := readDefinition_eq_ok_iff.1 h
  obtain ⟨_, _, _, _, _, _, -, -, -, -, -, -, -, rfl⟩ := (readRule_eq_ok_iff hentries).1 h
  rfl

end Definition

/-! ## All rules -/

theorem exists_readRulesFrom_iff {fixes : List (WideText × FixTemplate)}
    {names seen : List WideText} {index : Nat} {items : List Value}
    (hnames : ∀ name, (fixes.lookup name).isSome = true ↔ name ∈ names) :
    (∃ rules, readRulesFrom fixes seen index items = .ok rules) ↔
      (∀ item ∈ items, IsRule names item ∧ Writable (wordingsOfRule item)) ∧
        (items.map idOf).Nodup ∧ ∀ item ∈ items, idOf item ∉ seen := by
  induction items generalizing seen index with
  | nil => simp [readRulesFrom]
  | cons item rest ih =>
    rw [List.forall_mem_cons, List.forall_mem_cons, List.map_cons, List.nodup_cons,
      ← exists_readDefinition_iff index hnames, readRulesFrom]
    simp only [bind_eq_ok]
    constructor
    · rintro ⟨rules, rule, hrule, h⟩
      have hid := id_of_readDefinition hrule
      split at h
      · cases h
      · next hseen =>
        obtain ⟨others, hothers, -⟩ := bind_eq_ok.1 h
        obtain ⟨hrest, hnodup, hfresh⟩ := ih.1 ⟨others, hothers⟩
        rw [hid, List.contains_iff_mem] at hseen
        refine ⟨⟨⟨rule, hrule⟩, hrest⟩, ⟨fun hmem => ?_, hnodup⟩, hseen, fun other hother hin => ?_⟩
        · obtain ⟨other, hother, heq⟩ := List.mem_map.1 hmem
          exact hfresh other hother (by rw [heq, hid]; exact List.mem_cons_self)
        · exact hfresh other hother (List.mem_cons_of_mem _ hin)
    · rintro ⟨⟨⟨rule, hrule⟩, hrest⟩, ⟨hhead, hnodup⟩, hseen, hfresh⟩
      have hid := id_of_readDefinition hrule
      have hothers : ∀ other ∈ rest, idOf other ∉ rule.id :: seen := by
        intro other hother hin
        rcases List.mem_cons.1 hin with heq | hin
        · exact hhead (List.mem_map.2 ⟨other, hother, heq.trans hid⟩)
        · exact hfresh other hother hin
      obtain ⟨others, h⟩ := ih.2 ⟨hrest, hnodup, hothers⟩
      refine ⟨rule :: others, rule, hrule, ?_⟩
      rw [if_neg (by rw [hid, List.contains_iff_mem]; exact hseen), h]
      rfl

/-! ## A reading that is broken off -/

theorem brokenBy_of_missingKeys {entries : List (Value × Value)} {keys : List String}
    {cause : Breakdown} (h : missingKeys entries keys = .error cause) :
    BrokenBy (keys.map (Value.field entries)) cause := by
  induction keys with
  | nil => cases h
  | cons key rest ih =>
    rw [missingKeys] at h
    simp only [bind_eq_error] at h
    rcases h with h | ⟨_, -, h | ⟨_, -, h⟩⟩
    · exact ⟨_, List.mem_cons_self, saysNothing_eq_error_iff.1 h⟩
    · exact (ih h).mono (List.subset_cons_self _ _)
    · cases h

/-- A reading is broken off by a pattern. -/
def BrokenByPattern (item : Value) (cause : Breakdown) : Prop :=
  Pattern.compile (item.under "pattern").shown (!(item.under "ignore_case").isFalsy) =
    .error (.broken cause)

section Breaking

variable {fixes : List (WideText × FixTemplate)} {item : Value} {entries : List (Value × Value)}
  {cause : Breakdown}

theorem brokenBy_of_readRule (hentries : item.entries? = some entries)
    (h : readRule fixes entries = .error (.broken cause)) :
    BrokenBy (wordingsOfRule item) cause ∨ BrokenByPattern item cause := by
  unfold readRule at h
  simp only [← Value.under_of_entries? hentries] at h
  cases hseverity : Severity.ofValue? (item.under "severity") with
  | none => rw [hseverity] at h; cases h
  | some severity =>
    rw [hseverity] at h
    simp only [bind_eq_error, mapError_eq_error, RuleFault.broken.injEq] at h
    rcases h with h | ⟨_, -, h | ⟨_, -, h | ⟨_, -, h | ⟨_, hlist, ⟨_, h, rfl⟩ | ⟨_, -, h⟩⟩⟩⟩⟩
    · exact .inl ((brokenBy_of_readLanguages h).mono fun tag htag => by simp [wordingsOfRule, htag])
    · exact .inr (compile_of_readRulePattern h)
    · exact .inl ((brokenBy_of_readRuleFix h).mono fun value hvalue => by
        simp [wordingsOfRule, hvalue])
    · exact absurd h referencesOf_ne_broken
    · exact .inl ⟨item.under "cwe", by simp [wordingsOfRule], brokenBy_of_readWeakness h⟩
    · obtain ⟨-, rfl⟩ := referencesOf_eq_ok_iff.1 hlist
      rcases h with ⟨_, h, rfl⟩ | ⟨_, -, h⟩
      · exact .inl ((brokenBy_of_mapM_words h).mono fun value hvalue => by
          simp [wordingsOfRule, hvalue])
      · cases h

theorem brokenBy_of_readDefinition {index : Nat}
    (h : readDefinition fixes index item = .error (.broken cause)) :
    BrokenBy (wordingsOfRule item) cause ∨ BrokenByPattern item cause := by
  unfold readDefinition at h
  cases hentries : item.entries? with
  | none => rw [hentries] at h; cases h
  | some entries =>
    rw [hentries] at h
    simp only [bind_eq_error, mapError_eq_error, CatalogFault.broken.injEq] at h
    rcases h with ⟨_, h, rfl⟩ | ⟨missing, -, h⟩
    · have hkeys : requiredKeys.map (Value.field entries) = requiredKeys.map item.under :=
        List.map_congr_left fun key _ => (Value.under_of_entries? hentries key).symm
      refine .inl ((brokenBy_of_missingKeys h).mono ?_)
      rw [hkeys, wordingsOfRule_eq]
      simp
    · split at h
      · obtain ⟨fault, hfault, h⟩ := mapError_eq_error.1 h
        cases fault with
        | broken other =>
          cases h
          exact brokenBy_of_readRule hentries hfault
        | _ => cases h
      · cases h

theorem brokenBy_of_readRulesFrom {seen : List WideText} {index : Nat} {items : List Value}
    (h : readRulesFrom fixes seen index items = .error (.broken cause)) :
    BrokenBy (items.flatMap wordingsOfRule) cause ∨ ∃ item ∈ items, BrokenByPattern item cause := by
  induction items generalizing seen index with
  | nil => cases h
  | cons first rest ih =>
    rw [List.flatMap_cons]
    rw [readRulesFrom] at h
    simp only [bind_eq_error] at h
    rcases h with h | ⟨rule, -, h⟩
    · rcases brokenBy_of_readDefinition h with hbroken | hpattern
      · exact .inl (hbroken.mono (List.subset_append_left _ _))
      · exact .inr ⟨first, List.mem_cons_self, hpattern⟩
    · split at h
      · cases h
      · simp only [bind_eq_error] at h
        rcases h with h | ⟨others, -, h⟩
        · rcases ih h with hbroken | ⟨item, hitem, hpattern⟩
          · exact .inl (hbroken.mono (List.subset_append_right _ _))
          · exact .inr ⟨item, List.mem_cons_of_mem _ hitem, hpattern⟩
        · cases h

end Breaking

/-! ## The whole document -/

theorem readFixes_names {value : Value} {fixes : List (WideText × FixTemplate)}
    (h : readFixes value = .ok fixes) (name : WideText) :
    (fixes.lookup name).isSome = true ↔ name ∈ value.entries.map (·.1.shown) := by
  obtain ⟨-, -, rfl⟩ := readFixes_eq_ok_iff.1 h
  have hnames : name ∈ (templatesFrom [] value.entries).map (·.1) ↔
      name ∈ value.entries.map (·.1.shown) := by
    rw [mem_names_templatesFrom]
    simp
  rw [← hnames, List.lookup_isSome_iff, List.mem_map]
  exact exists_congr fun entry => and_congr_right fun _ => beq_iff_eq.trans eq_comm

theorem writable_wordings_iff {document : Value} :
    Writable (wordings document) ↔
      (∀ entry ∈ (document.under "fixes").entries,
        Writable (entry.1 :: wordingsOfTemplate entry.2)) ∧
      ∀ item ∈ (document.under "rules").items, Writable (wordingsOfRule item) := by
  simp only [Writable, wordings, List.forall_mem_append, List.forall_mem_flatMap]

/-- The steps of reading a catalog. -/
theorem ofDocument_eq_ok_iff {document : Value} {catalog : Catalog} :
    ofDocument document = .ok catalog ↔
      document.entries?.isSome = true ∧
        readFixes (document.under "fixes") = .ok catalog.fixes ∧
        (document.under "rules").items ≠ [] ∧
        readRulesFrom catalog.fixes [] 0 (document.under "rules").items = .ok catalog.rules := by
  unfold ofDocument
  cases hentries : document.entries? with
  | none => simp
  | some entries =>
    simp only [← Value.under_of_entries? hentries, bind_eq_ok, Option.isSome_some, true_and]
    constructor
    · rintro ⟨fixes, hfixes, h⟩
      split at h
      · next first rest hitems =>
        obtain ⟨rules, hrules, h⟩ := bind_eq_ok.1 h
        cases h
        rw [Value.items, hitems]
        exact ⟨hfixes, List.cons_ne_nil _ _, hrules⟩
      · cases h
    · rintro ⟨hfixes, hitems, hrules⟩
      refine ⟨catalog.fixes, hfixes, ?_⟩
      unfold Value.items at hitems hrules
      split
      · next first rest hsome =>
        rw [hsome] at hrules
        exact bind_eq_ok.2 ⟨catalog.rules, hrules, rfl⟩
      · next hnone =>
        cases hsome : (document.under "rules").items? with
        | none => rw [hsome] at hitems; exact absurd rfl hitems
        | some items =>
          cases items with
          | nil => rw [hsome] at hitems; exact absurd rfl hitems
          | cons first rest => exact absurd hsome (hnone first rest)

/-- A catalog is read from a well-formed document that can be written. -/
theorem exists_ofDocument_iff {document : Value} :
    (∃ catalog, ofDocument document = .ok catalog) ↔
      IsCatalog document ∧ Writable (wordings document) := by
  rw [writable_wordings_iff]
  constructor
  · rintro ⟨catalog, h⟩
    obtain ⟨hmapping, hfixes, hitems, hrules⟩ := ofDocument_eq_ok_iff.1 h
    obtain ⟨hfalsy, hreadable, -⟩ := readFixes_eq_ok_iff.1 hfixes
    obtain ⟨hdefinitions, hdistinct, -⟩ :=
      (exists_readRulesFrom_iff (readFixes_names hfixes)).1 ⟨catalog.rules, hrules⟩
    exact ⟨⟨hmapping, hfalsy, fun entry hentry => (hreadable entry hentry).1, hitems,
      fun item hitem => (hdefinitions item hitem).1, hdistinct⟩,
      fun entry hentry => (hreadable entry hentry).2,
      fun item hitem => (hdefinitions item hitem).2⟩
  · rintro ⟨hcatalog, htemplates, hdefinitions⟩
    have hfixes := readFixes_eq_ok_iff.2 ⟨hcatalog.fixes,
      fun entry hentry => ⟨hcatalog.templates entry hentry, htemplates entry hentry⟩, rfl⟩
    obtain ⟨rules, hrules⟩ := (exists_readRulesFrom_iff (readFixes_names hfixes)).2
      ⟨fun item hitem => ⟨hcatalog.definitions item hitem, hdefinitions item hitem⟩,
        hcatalog.distinct, fun item _ => List.not_mem_nil⟩
    exact ⟨⟨rules, _⟩, ofDocument_eq_ok_iff.2 ⟨hcatalog.mapping, hfixes, hcatalog.rules, hrules⟩⟩

theorem brokenBy_of_ofDocument {document : Value} {cause : Breakdown}
    (h : ofDocument document = .error (.broken cause)) :
    BrokenBy (wordings document) cause ∨
      ∃ item ∈ (document.under "rules").items, BrokenByPattern item cause := by
  unfold ofDocument at h
  cases hentries : document.entries? with
  | none => rw [hentries] at h; cases h
  | some entries =>
    rw [hentries] at h
    simp only [← Value.under_of_entries? hentries, bind_eq_error] at h
    rcases h with h | ⟨fixes, -, h⟩
    · exact .inl ((brokenBy_of_readFixes h).mono (List.subset_append_left _ _))
    · split at h
      · next first rest hitems =>
        have hrules : (document.under "rules").items = first :: rest := by
          rw [Value.items, hitems, Option.getD_some]
        rw [← hrules] at h
        simp only [bind_eq_error] at h
        rcases h with h | ⟨rules, -, h⟩
        · rcases brokenBy_of_readRulesFrom h with hbroken | hpattern
          · exact .inl (hbroken.mono (List.subset_append_right _ _))
          · exact .inr hpattern
        · cases h
      · cases h

/-- A document is read as a catalog just when it is well-formed and nothing breaks off putting into
words what it says. Otherwise it has a fault, and only a number that is too long, a value that lies
too deep or a pattern breaks the reading off. -/
theorem read_iff_well_formed (document : Value) :
    ((∃ catalog, ofDocument document = .ok catalog) ↔
      IsCatalog document ∧ ∀ value ∈ wordings document, ∀ cause, ¬ value.Breaks cause) ∧
    ∀ cause, ofDocument document = .error (.broken cause) →
      (∃ value ∈ wordings document, value.Breaks cause) ∨
        ∃ item ∈ (document.under "rules").items,
          Pattern.compile (item.under "pattern").shown (!(item.under "ignore_case").isFalsy) =
            .error (.broken cause) := by
  refine ⟨by rw [exists_ofDocument_iff, writable_iff], fun cause h => ?_⟩
  exact (brokenBy_of_ofDocument h).imp BrokenBy.exists_breaks id

/-! ## A number that is too long -/

/-- A rule that refers to a number of more digits than are written. -/
def farRule : Value :=
  .map [(.text "id", .text "bang"), (.text "type", .text "Bang"),
    (.text "severity", .text "high"), (.text "pattern", .text "!"),
    (.text "description", .text "Loud."),
    (.text "references", .list [.int (Int.ofNat (Nat.pow 16 3600))])]

/-- A document with this rule alone. -/
def farDocument : Value :=
  .map [
    (.text "fixes", .map [(.text "Bang", .map [(.text "rationale", .text "Keep it quiet.")])]),
    (.text "rules", .list [farRule])]

/-- The breakdown for which the reading of a document is given up. -/
def breakdownOf? (document : Value) : Option Breakdown :=
  match ofDocument document with
  | .error (.broken cause) => some cause
  | _ => none

theorem breakdownOf?_eq_some_iff {document : Value} {cause : Breakdown} :
    breakdownOf? document = some cause ↔ ofDocument document = .error (.broken cause) := by
  unfold breakdownOf?
  cases ofDocument document with
  | ok catalog => simp
  | error fault => cases fault <;> simp

theorem isRule_farRule : IsRule ["Bang"] farRule where
  mapping := rfl
  stated := by unfold IsStated; decide +kernel
  severity := ⟨.high, by decide +kernel⟩
  languages := .inl rfl
  pattern := by
    have hcompiles : (Pattern.compile "!" false).toOption.any (!·.matchesEmpty) = true := by
      decide +kernel
    obtain ⟨pattern, hpattern, hfull⟩ := (Option.any_eq_true _ _).1 hcompiles
    refine ⟨pattern, ?_, by simpa using hfull⟩
    change Pattern.compile "!" false = .ok pattern
    cases hread : Pattern.compile "!" false with
    | ok other =>
      rw [hread] at hpattern
      exact congrArg _ (Option.some.inj hpattern)
    | error fault => rw [hread] at hpattern; cases hpattern
  fix := .inl ⟨rfl, by decide +kernel⟩
  references := .inr rfl

/-- A well-formed document that is not read, and in which no fault is found either. -/
theorem well_formed_document_is_not_read :
    IsCatalog farDocument ∧ ofDocument farDocument = .error (.broken (.tooManyDigits none)) := by
  have hrules : (farDocument.under "rules").items = [farRule] := rfl
  refine ⟨⟨rfl, .inr rfl, by unfold IsTemplate IsStated; decide +kernel, ?_, ?_, ?_⟩, ?_⟩
  · rw [hrules]
    exact List.cons_ne_nil _ _
  · rw [hrules]
    exact List.forall_mem_singleton.2 isRule_farRule
  · rw [hrules]
    exact List.pairwise_singleton _ _
  · exact breakdownOf?_eq_some_iff.1 (by decide +kernel)

end SourceAudit.Catalog
