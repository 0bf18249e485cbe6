-- Where a text can be cut between lines. A cut behind a break keeps the lines of both parts, except
-- between the two characters of one break.

import SourceAudit.Text.Lines

namespace SourceAudit.Text

/-! ## Reading on behind one character -/

theorem linesFrom_crlf (current rest : List Char) :
    linesFrom current ('\r' :: '\n' :: rest) = current.reverse :: linesFrom [] rest := by
  rw [linesFrom]

theorem linesFrom_cr (current : List Char) {rest : List Char} (h : rest.head? ≠ some '\n') :
    linesFrom current ('\r' :: rest) = current.reverse :: linesFrom [] rest := by
  rw [linesFrom]
  rintro tail rfl
  exact h rfl

theorem linesFrom_lf (current rest : List Char) :
    linesFrom current ('\n' :: rest) = current.reverse :: linesFrom [] rest := by
  rw [linesFrom]

theorem linesFrom_char (current : List Char) {c : Char} (rest : List Char) (hr : c ≠ '\r')
    (hn : c ≠ '\n') : linesFrom current (c :: rest) = linesFrom (c :: current) rest := by
  rw [linesFrom]
  · intro tail h
    exact absurd h hr
  · exact hr
  · exact hn

/-! ## Seams -/

/-- The first text ends with a break, and the second one does not go on with that break. -/
def SeamFits (first second : List Char) : Prop :=
  first.getLast? = some '\n' ∨ first.getLast? = some '\r' ∧ second.head? ≠ some '\n'

/-- What fits behind a text fits behind its rest. -/
theorem SeamFits.of_cons {c : Char} {rest second : List Char} (h : SeamFits (c :: rest) second) :
    rest = [] ∨ SeamFits rest second := by
  cases rest with
  | nil => exact Or.inl rfl
  | cons d rest => exact Or.inr h

/-- Where the first text begins a line, it may also be empty. -/
theorem linesFrom_append {current first second : List Char}
    (h : first = [] ∧ current = [] ∨ SeamFits first second) :
    linesFrom current (first ++ second) = linesFrom current first ++ linesFrom [] second := by
  fun_induction linesFrom current first with
  | case1 current hempty =>
    rcases h with ⟨_, rfl⟩ | h
    · rfl
    · simp [SeamFits] at h
  | case2 current hempty =>
    rcases h with ⟨_, rfl⟩ | h
    · simp at hempty
    · simp [SeamFits] at h
  | case3 current rest ih =>
    -- both characters of the break are in the first text
    have hrest : rest = [] ∨ SeamFits rest second := by
      rcases h with ⟨h, _⟩ | h
      · cases h
      · rcases h.of_cons with h | h
        · cases h
        · exact h.of_cons
    rw [List.cons_append, List.cons_append, linesFrom_crlf, List.cons_append,
      ih (hrest.imp_left fun h => ⟨h, rfl⟩)]
  | case4 current rest hcr ih =>
    have hseam : SeamFits ('\r' :: rest) second := h.resolve_left fun h => by cases h.1
    have hhead : (rest ++ second).head? ≠ some '\n' := by
      cases rest with
      | nil =>
        rcases hseam with h | h
        · simp at h
        · exact h.2
      | cons c rest =>
        intro hc
        have hc : c = '\n' := by simpa using hc
        exact hcr rest (hc ▸ rfl)
    rw [List.cons_append, linesFrom_cr current hhead, List.cons_append,
      ih (hseam.of_cons.imp_left fun h => ⟨h, rfl⟩)]
  | case5 current rest ih =>
    have hseam : SeamFits ('\n' :: rest) second := h.resolve_left fun h => by cases h.1
    rw [List.cons_append, linesFrom_lf, List.cons_append,
      ih (hseam.of_cons.imp_left fun h => ⟨h, rfl⟩)]
  | case6 current c rest hcrlf hr hn ih =>
    have hseam : SeamFits (c :: rest) second := h.resolve_left fun h => by cases h.1
    have hrest : SeamFits rest second := by
      rcases hseam.of_cons with rfl | h
      · -- a text that ends with another character has no seam behind it
        rcases hseam with h | ⟨h, _⟩
        · exact absurd (by simpa using h) hn
        · exact absurd (by simpa using h) hr
      · exact h
    rw [List.cons_append, linesFrom_char current _ hr hn, ih (Or.inr hrest)]

/-- The lines of two texts in a row are those of the first and then those of the second, if the
first is empty or the seam between them fits. -/
theorem lines_append {first second : String}
    (h : first = "" ∨ SeamFits first.toList second.toList) :
    lines (first ++ second) = lines first ++ lines second := by
  unfold lines
  rw [String.toList_append, ← List.map_append]
  congr 1
  apply linesFrom_append
  rcases h with rfl | h
  · exact Or.inl ⟨rfl, rfl⟩
  · exact Or.inr h

end SourceAudit.Text
