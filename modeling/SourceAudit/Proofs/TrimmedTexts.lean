-- Trimmed texts. Trimming leaves nothing of a blank text and something of every other one, and
-- there is nothing more to trim afterwards.

import Mathlib.Data.List.DropRight
import SourceAudit.Proofs.WideTexts

namespace SourceAudit.Text

/-! ## Members dropped at both ends -/

section Dropping

variable {α : Type}

theorem dropEndWhile_eq (p : α → Bool) (xs : List α) : dropEndWhile p xs = xs.rdropWhile p := rfl

theorem dropBothWhile_eq_nil_iff {p : α → Bool} {xs : List α} :
    dropBothWhile p xs = [] ↔ ∀ x ∈ xs, p x = true := by
  rw [dropBothWhile, dropEndWhile_eq, List.rdropWhile_eq_nil_iff, ← List.dropWhile_eq_nil_iff,
    ← List.dropWhile_eq_nil_iff, List.dropWhile_idempotent]

/-- What is left begins with a member that stays. -/
theorem dropWhile_dropBothWhile (p : α → Bool) (xs : List α) :
    (dropBothWhile p xs).dropWhile p = dropBothWhile p xs := by
  rw [List.dropWhile_eq_self_iff]
  intro hpos
  have hbegins : dropBothWhile p xs <+: xs.dropWhile p := List.rdropWhile_prefix p _
  have hlength := Nat.lt_of_lt_of_le hpos hbegins.length_le
  rw [hbegins.getElem hpos]
  exact List.dropWhile_get_zero_not p xs hlength

/-- What is left ends with a member that stays. -/
theorem dropEndWhile_dropBothWhile (p : α → Bool) (xs : List α) :
    dropEndWhile p (dropBothWhile p xs) = dropBothWhile p xs := by
  rw [dropBothWhile, dropEndWhile_eq, dropEndWhile_eq, List.rdropWhile_idempotent]

theorem dropBothWhile_dropBothWhile (p : α → Bool) (xs : List α) :
    dropBothWhile p (dropBothWhile p xs) = dropBothWhile p xs := by
  rw [dropBothWhile, dropWhile_dropBothWhile, dropEndWhile_dropBothWhile]

theorem exists_not_of_dropWhile_eq {p : α → Bool} {front rest : List α}
    (h : (front ++ rest).dropWhile p = front ++ rest) (hfront : front ≠ []) :
    ∃ x ∈ front, p x = false := by
  obtain ⟨x, others, rfl⟩ := List.exists_cons_of_ne_nil hfront
  have hfirst := List.dropWhile_eq_self_iff.1 h (Nat.succ_pos _)
  exact ⟨x, List.mem_cons_self, by simpa using hfirst⟩

/-- Whatever the rest begins with has a member that stays. -/
theorem exists_not_of_prefix {p : α → Bool} {xs front : List α} (h : front <+: dropBothWhile p xs)
    (hfront : front ≠ []) : ∃ x ∈ front, p x = false := by
  obtain ⟨rest, hrest⟩ := h
  have hstart := dropWhile_dropBothWhile p xs
  rw [← hrest] at hstart
  exact exists_not_of_dropWhile_eq hstart hfront

/-- Whatever the rest ends with has a member that stays. -/
theorem exists_not_of_suffix {p : α → Bool} {xs back : List α} (h : back <:+ dropBothWhile p xs)
    (hback : back ≠ []) : ∃ x ∈ back, p x = false := by
  obtain ⟨front, hfront⟩ := h
  have hend := dropEndWhile_dropBothWhile p xs
  rw [← hfront, dropEndWhile, ← List.reverse_inj, List.reverse_reverse, List.reverse_append] at hend
  obtain ⟨x, hx, hstays⟩ := exists_not_of_dropWhile_eq hend
    fun hnil => hback (List.reverse_eq_nil_iff.1 hnil)
  exact ⟨x, List.mem_reverse.1 hx, hstays⟩

theorem dropBothWhile_map {β : Type} (f : β → α) (p : α → Bool) (xs : List β) :
    dropBothWhile p (xs.map f) = (dropBothWhile (p ∘ f) xs).map f := by
  simp only [dropBothWhile, dropEndWhile, List.dropWhile_map, ← List.map_reverse]

end Dropping

end SourceAudit.Text

/-! ## Trimmed texts -/

namespace SourceAudit.WideText

open SourceAudit.Text

theorem isEmpty_trim_iff {text : WideText} : text.trim.isEmpty = true ↔ text.blank = true := by
  rw [isEmpty, List.isEmpty_iff, blank, List.all_eq_true]
  exact dropBothWhile_eq_nil_iff

theorem trim_trim (text : WideText) : text.trim.trim = text.trim :=
  congrArg WideText.mk (dropBothWhile_dropBothWhile _ _)

theorem blank_trim (text : WideText) : text.trim.blank = text.blank := by
  rw [Bool.eq_iff_iff, ← isEmpty_trim_iff, ← isEmpty_trim_iff, trim_trim]

/-- A text of characters is trimmed as one of code points. -/
theorem ofString_trim (s : String) : ofString (Text.trim s) = (ofString s).trim := by
  have hblank : CodePoint.isBlank ∘ CodePoint.ofChar = Text.isBlank :=
    funext CodePoint.isBlank_ofChar
  apply congrArg WideText.mk
  rw [ofString, Text.dropBothWhile_map, hblank, Text.trim, String.toList_ofList]

theorem blank_ofString (s : String) : (ofString s).blank = Text.blank s := by
  have hblank : CodePoint.isBlank ∘ CodePoint.ofChar = Text.isBlank :=
    funext CodePoint.isBlank_ofChar
  rw [blank, ofString, List.all_map, hblank, Text.blank]

end SourceAudit.WideText
