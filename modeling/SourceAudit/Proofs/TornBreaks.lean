-- Reading back lines that were put together from elsewhere. Two things may be read otherwise: a
-- last line that is empty and open is not there, and a carriage return right before a line feed
-- makes one break of two, so that the empty line between them is lost.

import SourceAudit.Proofs.CanonicalLines

namespace SourceAudit.Text

/-! ## Lines that do not count -/

/-- The lines without a last one that is empty and open. -/
def settled (lines : List PhysicalLine) : List PhysicalLine :=
  if lines.getLast? = some ⟨[], .none⟩ then lines.dropLast else lines

theorem settled_concat (lines : List PhysicalLine) (last : PhysicalLine) :
    settled (lines ++ [last]) = if last = ⟨[], .none⟩ then lines else lines ++ [last] := by
  simp [settled]

theorem settled_sublist (lines : List PhysicalLine) : (settled lines).Sublist lines := by
  unfold settled
  split
  · exact List.dropLast_sublist lines
  · exact List.Sublist.refl lines

theorem joinLines_settled (lines : List PhysicalLine) :
    joinLines (settled lines) = joinLines lines := by
  rcases lines.eq_nil_or_concat' with rfl | ⟨front, last, rfl⟩
  · rfl
  · rw [settled_concat]
    split
    · next h => simp [h, joinLines, PhysicalLine.toChars, LineEnd.toChars]
    · rfl

theorem getElem?_settled {lines : List PhysicalLine} {i : Nat} {line : PhysicalLine}
    (h : lines[i]? = some line) (hline : line ≠ ⟨[], .none⟩) : (settled lines)[i]? = some line := by
  rcases lines.eq_nil_or_concat' with rfl | ⟨front, last, rfl⟩
  · exact h
  · rw [settled_concat]
    split
    · next hlast =>
      rcases Nat.lt_or_ge i front.length with hlt | hge
      · rwa [List.getElem?_append_left hlt] at h
      · rw [List.getElem?_append_right hge, hlast] at h
        exact absurd (by simpa using List.mem_of_getElem? h) hline
    · exact h

/-! ## Torn breaks -/

/-- One line ends with a carriage return, and the next one is a line feed alone: in a text, both
are a single break. -/
def Torn (line next : PhysicalLine) : Prop :=
  line.ending = .cr ∧ next = ⟨[], .lf⟩

/-- The lines with each torn break made whole. -/
def mended : List PhysicalLine → List PhysicalLine
  | [] => []
  | ⟨text, .cr⟩ :: ⟨[], .lf⟩ :: rest => ⟨text, .crlf⟩ :: mended rest
  | line :: rest => line :: mended rest

theorem mended_whole {line : PhysicalLine} {rest : List PhysicalLine}
    (h : ∀ next ∈ rest.head?, ¬Torn line next) : mended (line :: rest) = line :: mended rest := by
  rw [mended]
  rintro text tail rfl rfl
  exact h ⟨[], .lf⟩ rfl ⟨rfl, rfl⟩

theorem joinLines_mended (lines : List PhysicalLine) :
    joinLines (mended lines) = joinLines lines := by
  fun_induction mended lines with
  | case1 => rfl
  | case2 text rest ih =>
    unfold joinLines at ih ⊢
    simp [ih, PhysicalLine.toChars, LineEnd.toChars]
  | case3 line rest hwhole ih =>
    unfold joinLines at ih ⊢
    rw [List.flatMap_cons, List.flatMap_cons, ih]

/-- Making breaks whole puts no line feed in front. -/
theorem head?_mended {lines : List PhysicalLine} (h : (mended lines).head? = some ⟨[], .lf⟩) :
    lines.head? = some ⟨[], .lf⟩ := by
  fun_induction mended lines with
  | case1 => exact h
  | case2 text rest ih => simp at h
  | case3 line rest hwhole ih => exact h

theorem length_mended_le (lines : List PhysicalLine) : (mended lines).length ≤ lines.length := by
  fun_induction mended lines with
  | case1 => exact Nat.le_refl 0
  | case2 text rest ih =>
    simp only [List.length_cons]
    omega
  | case3 line rest hwhole ih =>
    simp only [List.length_cons]
    omega

/-- No break is torn. -/
def Whole (lines : List PhysicalLine) : Prop :=
  lines.IsChain fun line next => ¬Torn line next

theorem mended_eq_self {lines : List PhysicalLine} (h : Whole lines) : mended lines = lines := by
  induction lines with
  | nil => rfl
  | cons line rest ih =>
    obtain ⟨hline, hrest⟩ := List.isChain_cons.1 h
    rw [mended_whole hline, ih hrest]

/-- Each torn break costs a line. -/
theorem whole_of_length_mended {lines : List PhysicalLine}
    (h : (mended lines).length = lines.length) : Whole lines := by
  fun_induction mended lines with
  | case1 => exact .nil
  | case2 text rest ih =>
    have hle := length_mended_le rest
    simp only [List.length_cons] at h
    omega
  | case3 line rest hwhole ih =>
    refine List.isChain_cons.2 ⟨?_, ih (by simpa using h)⟩
    rintro next hnext ⟨hcr, rfl⟩
    obtain ⟨tail, rfl⟩ := List.head?_eq_some_iff.1 hnext
    exact hwhole line.text tail (by rw [← hcr]) rfl

/-! ## Reading back -/

/-- Lines that are canonical but for torn breaks. -/
structure Readable (lines : List PhysicalLine) : Prop where
  no_break : ∀ line ∈ lines, ∀ c ∈ line.text, isBreak c = false
  only_last_open : OnlyLastOpen lines
  open_filled : ∀ line ∈ lines, line.ending = .none → line.text ≠ []

theorem Readable.of_cons {line : PhysicalLine} {rest : List PhysicalLine}
    (h : Readable (line :: rest)) : Readable rest :=
  ⟨(List.forall_mem_cons.1 h.no_break).2, (List.pairwise_cons.1 h.only_last_open).2,
    (List.forall_mem_cons.1 h.open_filled).2⟩

/-- An open line is filled, and the last one. -/
theorem Readable.open_last {line : PhysicalLine} {rest : List PhysicalLine}
    (h : Readable (line :: rest)) (hopen : line.ending = .none) : line.text ≠ [] ∧ rest = [] :=
  ⟨h.open_filled line List.mem_cons_self hopen, List.eq_nil_iff_forall_not_mem.2 fun other hother =>
    (List.pairwise_cons.1 h.only_last_open).1 other hother hopen⟩

theorem canonical_mended {lines : List PhysicalLine} (h : Readable lines) :
    Canonical (mended lines) := by
  fun_induction mended lines with
  | case1 => exact canonical_nil
  | case2 text rest ih =>
    exact canonical_cons_iff.2 ⟨(List.forall_mem_cons.1 h.no_break).1, LineEnd.noConfusion,
      LineEnd.noConfusion, ih h.of_cons.of_cons⟩
  | case3 line rest hwhole ih =>
    refine canonical_cons_iff.2 ⟨(List.forall_mem_cons.1 h.no_break).1, fun hopen => ?_,
      fun hcr hhead => ?_, ih h.of_cons⟩
    · obtain ⟨hfilled, rfl⟩ := h.open_last hopen
      exact ⟨hfilled, rfl⟩
    · obtain ⟨tail, rfl⟩ := List.head?_eq_some_iff.1 (head?_mended hhead)
      exact hwhole line.text tail (by rw [← hcr]) rfl

/-- Lines that are put together are read back with torn breaks made whole, and in no other way. -/
theorem physicalLines_joinLines_of_readable {lines : List PhysicalLine} (h : Readable lines) :
    physicalLines (joinLines lines) = mended lines := by
  rw [← joinLines_mended, physicalLines_joinLines (canonical_mended h)]

theorem readable_settled {lines : List PhysicalLine}
    (hfree : ∀ line ∈ lines, ∀ c ∈ line.text, isBreak c = false) (hopen : OnlyLastOpen lines) :
    Readable (settled lines) := by
  have hsub := settled_sublist lines
  refine ⟨fun line hline => hfree line (hsub.subset hline), hopen.sublist hsub, ?_⟩
  rcases lines.eq_nil_or_concat' with rfl | ⟨front, last, rfl⟩
  · simp [settled]
  · -- the lines in front of the last one have breaks
    have hfront : ∀ line ∈ front, line.ending ≠ .none := fun line hline =>
      (List.pairwise_append.1 hopen).2.2 line hline last (List.mem_singleton_self last)
    rw [settled_concat]
    split
    · exact fun line hline hnone => absurd hnone (hfront line hline)
    · next hlast =>
      intro line hline hnone hempty
      rcases List.mem_append.1 hline with hline | hline
      · exact hfront line hline hnone
      · obtain rfl := List.mem_singleton.1 hline
        obtain ⟨text, ending⟩ := line
        exact hlast (by rw [show text = [] from hempty, show ending = .none from hnone])

/-- A last line that is empty and open tears no break. -/
theorem whole_settled_iff {lines : List PhysicalLine} : Whole (settled lines) ↔ Whole lines := by
  rcases lines.eq_nil_or_concat' with rfl | ⟨front, last, rfl⟩
  · rfl
  · rw [settled_concat]
    split
    · next hlast =>
      unfold Whole
      rw [hlast, List.isChain_append]
      simp [Torn]
    · rfl

end SourceAudit.Text
