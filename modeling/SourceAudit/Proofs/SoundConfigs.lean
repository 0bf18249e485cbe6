-- Configurations that are read are sound: whatever a document says, the limit of sizes is positive,
-- the identifiers of rules are trimmed, and suffixes are in lower case with a point in front. The
-- reading is broken off only for a key that is no text or for a value that cannot be written.

import SourceAudit.Config
import SourceAudit.Proofs.LowercaseTexts
import SourceAudit.Proofs.TrimmedTexts
import SourceAudit.Proofs.WellFormedDocuments

namespace SourceAudit.Config

open SourceAudit.Document

/-! ## Sound configurations -/

/-- What every configuration can be relied on for. -/
structure IsSound (config : Config) : Prop where
  size : 0 < config.maxFileSize
  rules : ∀ id ∈ config.disabledRules, id.blank = false ∧ id.trim = id
  extensions : ∀ extensions ∈ config.extensions, ∀ extension ∈ extensions,
    extension.lowercase = extension ∧ extension.startsWith "." = true

/-- The values of a document that are put into words, other than in a fault. -/
def wordings (document : Value) : List Value :=
  document.under "rules_path" ::
    ((document.under "disabled_rules").items ++ (document.under "extensions").items)

variable {document value : Value} {key : String} {entries : List (Value × Value)}
  {cause : Breakdown}

/-! ## Keys -/

theorem nameOf_eq_error_iff {fault : ConfigFault} :
    nameOf value = .error fault ↔ fault = .broken .keyNotText ∧ value.text? = none := by
  unfold nameOf
  cases value.text? <;> simp [eq_comm]

/-- The check of keys is broken off just when one of them is no text. -/
theorem checkKeys_eq_broken_iff {keys : List Value} :
    checkKeys keys = .error (.broken cause) ↔
      cause = .keyNotText ∧ ∃ key ∈ keys, key.text? = none := by
  unfold checkKeys
  constructor
  · intro h
    rcases bind_eq_error.1 h with h | ⟨names, -, h⟩
    · obtain ⟨key, hkey, h⟩ := exists_of_mapM_eq_error h
      obtain ⟨hfault, hnone⟩ := nameOf_eq_error_iff.1 h
      cases hfault
      exact ⟨rfl, key, hkey, hnone⟩
    · split at h <;> cases h
  · rintro ⟨rfl, key, hkey, hnone⟩
    refine bind_eq_error.2 (.inl ?_)
    cases hnames : keys.mapM nameOf with
    | ok names =>
      obtain ⟨name, h⟩ := exists_mapM_eq_ok_iff.1 ⟨names, hnames⟩ key hkey
      rw [nameOf_eq_error_iff.2 ⟨rfl, hnone⟩] at h
      cases h
    | error fault =>
      obtain ⟨other, -, h⟩ := exists_of_mapM_eq_error hnames
      rw [(nameOf_eq_error_iff.1 h).1]

/-! ## Texts -/

theorem brokenBy_of_optionalText (h : optionalText value = .error (.broken cause)) :
    BrokenBy [value] cause := by
  unfold optionalText at h
  split at h
  · cases h
  · simp only [bind_eq_error, mapError_eq_error, ConfigFault.broken.injEq] at h
    rcases h with ⟨_, hwords, rfl⟩ | ⟨_, -, h⟩
    · exact ⟨value, List.mem_cons_self, Value.words_eq_error_iff.1 hwords⟩
    · cases h

theorem texts_trimmed {items : List WideText} (h : texts key value = .ok items) :
    ∀ text ∈ items, text.blank = false ∧ text.trim = text := by
  unfold texts at h
  split at h
  · cases h
    exact fun text htext => absurd htext List.not_mem_nil
  · split at h
    · obtain ⟨words, -, h⟩ := bind_eq_ok.1 h
      cases h
      intro text htext
      obtain ⟨hword, hfull⟩ := List.mem_filter.1 htext
      obtain ⟨word, -, rfl⟩ := List.mem_map.1 hword
      refine ⟨?_, word.trim_trim⟩
      rw [Bool.eq_false_iff, ne_eq, ← WideText.isEmpty_trim_iff, word.trim_trim]
      simpa using hfull
    · cases h

theorem brokenBy_of_texts (h : texts key value = .error (.broken cause)) :
    BrokenBy value.items cause := by
  unfold texts at h
  split at h
  · cases h
  · split at h
    · next items hitems =>
      simp only [bind_eq_error, mapError_eq_error, ConfigFault.broken.injEq] at h
      rw [Value.items, hitems]
      rcases h with ⟨_, hwords, rfl⟩ | ⟨_, -, h⟩
      · exact brokenBy_of_mapM_words hwords
      · cases h
    · cases h

/-! ## Suffixes -/

theorem suffix_sound (text : WideText) :
    (suffix text).lowercase = suffix text ∧ (suffix text).startsWith "." = true := by
  unfold suffix
  dsimp only
  split
  · next hpoint => exact ⟨text.lowercase_lowercase, hpoint⟩
  · refine ⟨WideText.lowercase_of_isLowerPoint fun p hp => ?_, ?_⟩
    · rcases List.mem_append.1 hp with hp | hp
      · obtain rfl := List.mem_singleton.1 hp
        exact WideText.isLowerPoint_ofChar (@Text.isLower_toLower '.' (by decide))
      · exact WideText.isLowerPoint_of_mem_lowercase p hp
    · exact List.isPrefixOf_iff_prefix.2 (List.prefix_append _ _)

theorem readExtensions_sound {extensions : Option (List WideText)}
    (h : readExtensions entries = .ok extensions) :
    ∀ all ∈ extensions, ∀ extension ∈ all,
      extension.lowercase = extension ∧ extension.startsWith "." = true := by
  unfold readExtensions at h
  split at h
  · cases h
    exact fun all hall => absurd hall (by simp)
  · cases hitems : texts "extensions" (Value.field entries "extensions") with
    | error fault => rw [hitems] at h; cases h
    | ok items =>
      rw [hitems] at h
      cases h
      intro all hall extension hextension
      obtain rfl := Option.some.inj hall
      obtain ⟨text, -, rfl⟩ := List.mem_map.1 hextension
      exact suffix_sound text

theorem brokenBy_of_readExtensions (h : readExtensions entries = .error (.broken cause)) :
    BrokenBy (Value.field entries "extensions").items cause := by
  unfold readExtensions at h
  split at h
  · cases h
  · cases hitems : texts "extensions" (Value.field entries "extensions") with
    | error fault =>
      rw [hitems] at h
      cases h
      exact brokenBy_of_texts hitems
    | ok items => rw [hitems] at h; cases h

/-! ## Numbers and severities -/

theorem readSize_pos {size : Nat} (h : readSize entries = .ok size) : 0 < size := by
  unfold readSize at h
  split at h
  · cases h
    decide
  · split at h
    · cases h
      omega
    · cases h
  · cases h

theorem readSize_ne_broken : readSize entries ≠ .error (.broken cause) := by
  intro h
  unfold readSize at h
  split at h
  · cases h
  · split at h <;> cases h
  · cases h

/-- A severity gives up the reading only where it lies too deep to be written. -/
theorem brokenBy_of_readThreshold (h : readThreshold entries = .error (.broken cause)) :
    cause = .nestedTooDeep ∧ BrokenBy [Value.field entries "fail_on"] cause := by
  unfold readThreshold at h
  split at h
  · cases h
  · next value hvalue =>
    have hfield : Value.field entries "fail_on" = value := by
      rw [Value.field, hvalue, Option.getD_some]
    split at h
    · next hwords =>
      cases h
      exact ⟨rfl, value, by simp [hfield], Value.words_eq_error_iff.1 hwords⟩
    · cases h
    · split at h <;> cases h

/-! ## Whole documents -/

theorem isSound_of_ofDocument {config : Config} (h : ofDocument document = .ok config) :
    config.IsSound := by
  unfold ofDocument at h
  split at h
  · simp only [bind_eq_ok] at h
    obtain ⟨-, -, threshold, -, size, hsize, path, -, rules, hrules, extensions, hextensions,
      h⟩ := h
    cases h
    exact ⟨readSize_pos hsize, texts_trimmed hrules, readExtensions_sound hextensions⟩
  · cases h

/-- A configuration is given up for a key that is no text or for a value that cannot be written. In
the severity only a value that lies too deep counts. -/
theorem broken_of_ofDocument (h : ofDocument document = .error (.broken cause)) :
    (cause = .keyNotText ∧ ∃ entry ∈ document.entries, entry.1.text? = none) ∨
      BrokenBy (wordings document) cause ∨
        cause = .nestedTooDeep ∧ BrokenBy [document.under "fail_on"] cause := by
  unfold ofDocument at h
  split at h
  · next entries hentries =>
    simp only [bind_eq_error, ← Value.under_of_entries? hentries] at h
    rcases h with h | ⟨-, -, h | ⟨_, -, h | ⟨_, -, h | ⟨_, -, h | ⟨_, -, h | ⟨_, -, h⟩⟩⟩⟩⟩⟩
    · obtain ⟨rfl, key, hkey, hnone⟩ := checkKeys_eq_broken_iff.1 h
      obtain ⟨entry, hentry, rfl⟩ := List.mem_map.1 hkey
      refine .inl ⟨rfl, entry, ?_, hnone⟩
      rwa [Value.entries, hentries]
    · have hbroken := brokenBy_of_readThreshold h
      rw [← Value.under_of_entries? hentries] at hbroken
      exact .inr (.inr hbroken)
    · exact absurd h readSize_ne_broken
    · exact .inr (.inl ((brokenBy_of_optionalText h).mono (by simp [wordings])))
    · exact .inr (.inl ((brokenBy_of_texts h).mono fun item hitem => by simp [wordings, hitem]))
    · have hbroken := brokenBy_of_readExtensions h
      rw [← Value.under_of_entries? hentries] at hbroken
      exact .inr (.inl (hbroken.mono fun item hitem => by simp [wordings, hitem]))
    · cases h
  · cases h

/-- A key that is no text breaks the reading off, whatever else is in the document. -/
theorem broken_of_keyNotText (h : ∃ entry ∈ document.entries, entry.1.text? = none) :
    ofDocument document = .error (.broken .keyNotText) := by
  obtain ⟨entry, hentry, hnone⟩ := h
  unfold Value.entries at hentry
  unfold ofDocument
  cases hentries : document.entries? with
  | none => rw [hentries] at hentry; exact absurd hentry List.not_mem_nil
  | some entries =>
    rw [hentries] at hentry
    have hkeys : checkKeys (entries.map Prod.fst) = .error (.broken .keyNotText) :=
      checkKeys_eq_broken_iff.2 ⟨rfl, entry.1, List.mem_map_of_mem hentry, hnone⟩
    exact bind_eq_error.2 (.inl hkeys)

end SourceAudit.Config
