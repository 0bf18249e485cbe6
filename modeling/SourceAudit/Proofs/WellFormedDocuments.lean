-- Which documents are catalogs. A document is well-formed by what it says alone, key by key; it is
-- read as a catalog just when it is, and when everything that is to be put into words can be.
-- Any other document has a fault, and the reading is never broken off but for something that cannot
-- be written, a number that is too long or a value that is nested too deeply, or by a pattern.

import SourceAudit.Catalog.FromDocument
import SourceAudit.Proofs.FallibleSteps
import SourceAudit.Proofs.WrittenValues

namespace SourceAudit

open SourceAudit.Document

/-! ## Looking into a document -/

namespace Document.Value

/-- The entries of a mapping; nothing else has any. -/
def entries (value : Value) : List (Value × Value) :=
  value.entries?.getD []

/-- The items of a list; nothing else has any. -/
def items (value : Value) : List Value :=
  value.items?.getD []

/-- What a mapping says under a key. -/
def under (value : Value) (key : String) : Value :=
  field value.entries key

theorem under_of_entries? {value : Value} {entries : List (Value × Value)}
    (h : value.entries? = some entries) (key : String) :
    value.under key = Value.field entries key := by
  rw [Value.under, Value.entries, h, Option.getD_some]

end Document.Value

/-! ## Values in words -/

namespace Document

/-- Values that can all be written. -/
def Writable (values : List Value) : Prop :=
  ∀ value ∈ values, value.flaw? = none

theorem writable_iff {values : List Value} :
    Writable values ↔ ∀ value ∈ values, ∀ cause, ¬ value.Breaks cause :=
  forall₂_congr fun _ _ => Value.flaw?_eq_none_iff

theorem exists_mapM_words_iff {values : List Value} :
    (∃ texts, values.mapM Value.words = .ok texts) ↔ Writable values := by
  simp [exists_mapM_eq_ok_iff, Value.words_eq_ok_iff, Writable]

/-- A reading is broken off for a value that cannot be written. -/
def BrokenBy (values : List Value) (cause : Breakdown) : Prop :=
  ∃ value ∈ values, value.flaw? = some cause

theorem BrokenBy.exists_breaks {values : List Value} {cause : Breakdown}
    (h : BrokenBy values cause) : ∃ value ∈ values, value.Breaks cause := by
  obtain ⟨value, hvalue, hflaw⟩ := h
  exact ⟨value, hvalue, Value.breaks_of_flaw? hflaw⟩

theorem BrokenBy.mono {values others : List Value} {cause : Breakdown}
    (h : BrokenBy values cause) (hsub : values ⊆ others) : BrokenBy others cause := by
  obtain ⟨value, hvalue, hflaw⟩ := h
  exact ⟨value, hsub hvalue, hflaw⟩

theorem brokenBy_of_mapM_words {values : List Value} {cause : Breakdown}
    (h : values.mapM Value.words = .error cause) : BrokenBy values cause := by
  obtain ⟨value, hvalue, hwords⟩ := exists_of_mapM_eq_error h
  exact ⟨value, hvalue, Value.words_eq_error_iff.1 hwords⟩

end Document

namespace Catalog

/-! ## Well-formed documents -/

/-- A value counts, and is more than white space in words. -/
def IsStated (value : Value) : Prop :=
  value.isFalsy = false ∧ value.shown.blank = false

/-- A template: a mapping with a rationale. -/
def IsTemplate (value : Value) : Prop :=
  value.entries?.isSome = true ∧ IsStated (value.under "rationale")

/-- A tag of a language that is known, or the tag for the unknown one. -/
def IsLanguage (tag : Value) : Prop :=
  Language.ofValue tag ≠ .unknown ∨ tag.shown.trim.lowercase = "unknown"

/-- The languages of a rule: null, or a list of tags. -/
def AreLanguages (value : Value) : Prop :=
  value = .null ∨ value.items?.isSome = true ∧ ∀ tag ∈ value.items, IsLanguage tag

/-- The identifier that a definition gives to its rule. -/
def idOf (item : Value) : WideText :=
  (item.under "id").shown.trim

/-- A well-formed definition of a rule, beside templates that go by some names. -/
structure IsRule (names : List WideText) (item : Value) : Prop where
  mapping : item.entries?.isSome = true
  stated : ∀ key ∈ ["id", "type", "severity", "pattern", "description"], IsStated (item.under key)
  severity : ∃ level : Severity,
    (item.under "severity").shown.trim.lowercase = level.name
  languages : AreLanguages (item.under "languages")
  pattern : ∃ pattern, Pattern.compile (item.under "pattern").shown
    (!(item.under "ignore_case").isFalsy) = .ok pattern ∧ pattern.matchesEmpty = false
  fix : item.under "fix" = .null ∧ (item.under "type").shown.trim ∈ names ∨
    item.under "fix" ≠ .null ∧ IsTemplate (item.under "fix")
  references : (item.under "references").isFalsy = true ∨
    (item.under "references").items?.isSome = true

/-- A well-formed document. -/
structure IsCatalog (document : Value) : Prop where
  mapping : document.entries?.isSome = true
  fixes : (document.under "fixes").isFalsy = true ∨
    (document.under "fixes").entries?.isSome = true
  templates : ∀ entry ∈ (document.under "fixes").entries, IsTemplate entry.2
  rules : (document.under "rules").items ≠ []
  definitions : ∀ item ∈ (document.under "rules").items,
    IsRule ((document.under "fixes").entries.map (·.1.shown)) item
  distinct : ((document.under "rules").items.map idOf).Nodup

/-! ## What is put into words -/

/-- The values of a template that are put into words. -/
def wordingsOfTemplate (value : Value) : List Value :=
  ["rationale", "before", "after"].map value.under

/-- The values of a definition that are put into words. -/
def wordingsOfRule (item : Value) : List Value :=
  ["id", "type", "severity", "pattern", "description", "cwe"].map item.under ++
    (item.under "languages").items ++ wordingsOfTemplate (item.under "fix") ++
    (item.under "references").items

/-- The values of a document that are put into words. -/
def wordings (document : Value) : List Value :=
  (document.under "fixes").entries.flatMap
      (fun entry => entry.1 :: wordingsOfTemplate entry.2) ++
    (document.under "rules").items.flatMap wordingsOfRule

end Catalog

end SourceAudit
