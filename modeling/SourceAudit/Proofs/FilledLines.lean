-- The lines of a text that are not empty. Where a text is cut at any character of a break, these
-- are the ones of both parts; so it does not matter which breaks a text has, or how many in a row.

import SourceAudit.Proofs.LineSeams

namespace SourceAudit.Text

/-! ## Texts cut at breaks -/

/-- A character that ends a line. -/
def isBreak (c : Char) : Bool :=
  c == '\r' || c == '\n'

theorem isBreak_eq_false {c : Char} (hr : c ≠ '\r') (hn : c ≠ '\n') : isBreak c = false := by
  simp only [isBreak, Bool.or_eq_false_iff, beq_eq_false_iff_ne]
  exact ⟨hr, hn⟩

/-- The lines of a text that are not empty. -/
def filled (text : List Char) : List (List Char) :=
  (text.splitOnP isBreak).filter (!·.isEmpty)

@[simp] theorem filled_nil : filled [] = [] := by
  simp [filled]

theorem filled_append_break (first : List Char) {c : Char} (hc : isBreak c = true)
    (second : List Char) : filled (first ++ c :: second) = filled first ++ filled second := by
  unfold filled
  rw [List.splitOnP_append_cons first second hc, List.filter_append]

theorem filled_break_cons {c : Char} (hc : isBreak c = true) (rest : List Char) :
    filled (c :: rest) = filled rest := by
  simpa using filled_append_break [] hc rest

/-- A text without breaks is a line, if it is not empty. -/
theorem filled_of_no_break {text : List Char} (h : ∀ c ∈ text, isBreak c = false) :
    filled text = [text].filter (!·.isEmpty) := by
  unfold filled
  rw [List.splitOnP_eq_singleton (by simpa using h)]

/-! ## Lines and pieces -/

/-- Reading lines one by one and cutting at breaks give the same, but for empty lines. -/
theorem filter_linesFrom {current : List Char} (hcurrent : ∀ c ∈ current, isBreak c = false)
    (text : List Char) :
    (linesFrom current text).filter (!·.isEmpty) = filled (current.reverse ++ text) := by
  have hbegun : ∀ {cs : List Char}, (∀ c ∈ cs, isBreak c = false) →
      filled cs.reverse = [cs.reverse].filter (!·.isEmpty) := fun h =>
    filled_of_no_break fun c hc => h c (List.mem_reverse.1 hc)
  -- each break cuts off the line begun before it, which has no break itself
  fun_induction linesFrom current text with
  | case1 current hempty => simp [List.isEmpty_iff.1 hempty]
  | case2 current hempty => rw [List.append_nil, hbegun hcurrent]
  | case3 current rest ih =>
    rw [filled_append_break _ rfl, filled_break_cons rfl, hbegun hcurrent,
      ← List.singleton_append, List.filter_append, ih (by simp)]
    rfl
  | case4 current rest hcr ih | case5 current rest ih =>
    rw [filled_append_break _ rfl, hbegun hcurrent, ← List.singleton_append, List.filter_append,
      ih (by simp)]
    rfl
  | case6 current c rest hcrlf hr hn ih =>
    rw [ih (List.forall_mem_cons.2 ⟨isBreak_eq_false hr hn, hcurrent⟩)]
    simp

/-- No line has a break in it. -/
theorem no_break_of_mem_linesFrom {current text line : List Char}
    (hcurrent : ∀ c ∈ current, isBreak c = false) (h : line ∈ linesFrom current text) :
    ∀ c ∈ line, isBreak c = false := by
  have hbegun : line = current.reverse → ∀ c ∈ line, isBreak c = false := by
    rintro rfl c hc
    exact hcurrent c (List.mem_reverse.1 hc)
  fun_induction linesFrom current text with
  | case1 current hempty => cases h
  | case2 current hempty => exact hbegun (List.mem_singleton.1 h)
  | case3 current rest ih | case4 current rest hcr ih | case5 current rest ih =>
    rcases List.mem_cons.1 h with h | h
    · exact hbegun h
    · exact ih (by simp) h (by rintro rfl; simp)
  | case6 current c rest hcrlf hr hn ih =>
    have hall : ∀ d ∈ c :: current, isBreak d = false :=
      List.forall_mem_cons.2 ⟨isBreak_eq_false hr hn, hcurrent⟩
    apply ih hall h
    rintro rfl d hd
    exact hall d (List.mem_reverse.1 hd)

theorem no_break_of_mem_lines {text line : String} (h : line ∈ lines text) :
    ∀ c ∈ line.toList, isBreak c = false := by
  obtain ⟨cs, hcs, rfl⟩ := List.mem_map.1 h
  rw [String.toList_ofList]
  exact no_break_of_mem_linesFrom (by simp) hcs

/-- Pieces differ from lines in an empty one at the end, if at all. -/
theorem piecesFrom_eq (current text : List Char) :
    piecesFrom current text = linesFrom current text ∨
      piecesFrom current text = linesFrom current text ++ [[]] := by
  fun_induction piecesFrom current text with
  | case1 current => cases current <;> simp [linesFrom]
  | case2 current rest ih =>
    rw [linesFrom_crlf]
    exact ih.imp (by rw [·]) (by rw [·, List.cons_append])
  | case3 current rest hcr ih =>
    rw [linesFrom]
    · exact ih.imp (by rw [·]) (by rw [·, List.cons_append])
    · exact hcr
  | case4 current rest ih =>
    rw [linesFrom_lf]
    exact ih.imp (by rw [·]) (by rw [·, List.cons_append])
  | case5 current c rest hcrlf hr hn ih =>
    rw [linesFrom_char current rest hr hn]
    exact ih

/-- There is always a piece. -/
theorem piecesFrom_ne_nil (current text : List Char) : piecesFrom current text ≠ [] := by
  fun_induction piecesFrom current text with
  | case1 | case2 | case3 | case4 => exact List.cons_ne_nil _ _
  | case5 current c rest hcrlf hr hn ih => exact ih

theorem filter_pieces (text : List Char) :
    (pieces text).filter (!·.isEmpty) = filled text := by
  have hlines : (linesFrom [] text).filter (!·.isEmpty) = filled text :=
    filter_linesFrom (by simp) text
  unfold pieces
  rcases piecesFrom_eq [] text with h | h
  · rw [h, hlines]
  · rw [h, List.filter_append, hlines]
    simp

theorem no_break_of_mem_pieces {text piece : List Char} (h : piece ∈ pieces text) :
    ∀ c ∈ piece, isBreak c = false := by
  have hline : piece ∈ linesFrom [] text → ∀ c ∈ piece, isBreak c = false :=
    no_break_of_mem_linesFrom (by simp)
  unfold pieces at h
  rcases piecesFrom_eq [] text with heq | heq
  · exact hline (heq ▸ h)
  · rw [heq, List.mem_append, List.mem_singleton] at h
    rcases h with h | rfl
    · exact hline h
    · simp

/-! ## Lines with their breaks -/

theorem map_text_physicalLinesFrom (current text : List Char) :
    (physicalLinesFrom current text).map (·.text) = linesFrom current text := by
  fun_induction physicalLinesFrom current text with
  | case1 current hempty => rw [linesFrom, if_pos hempty]; rfl
  | case2 current hempty => rw [linesFrom, if_neg hempty]; rfl
  | case3 current rest ih => rw [linesFrom_crlf, List.map_cons, ih]
  | case4 current rest hcr ih =>
    rw [linesFrom, List.map_cons, ih]
    exact hcr
  | case5 current rest ih => rw [linesFrom_lf, List.map_cons, ih]
  | case6 current c rest hcrlf hr hn ih => rw [linesFrom_char current rest hr hn, ih]

theorem map_text_physicalLines (text : String) :
    (physicalLines text.toList).map (fun line => String.ofList line.text) = lines text := by
  unfold lines physicalLines
  rw [← map_text_physicalLinesFrom, List.map_map]
  rfl

/-- Each line but the last has a break. -/
def OnlyLastOpen (lines : List PhysicalLine) : Prop :=
  lines.Pairwise fun line _ => line.ending ≠ .none

theorem onlyLastOpen_physicalLinesFrom (current text : List Char) :
    OnlyLastOpen (physicalLinesFrom current text) := by
  fun_induction physicalLinesFrom current text with
  | case1 current hempty => exact .nil
  | case2 current hempty => exact List.pairwise_singleton _ _
  | case3 current rest ih | case4 current rest hcr ih | case5 current rest ih =>
    exact .cons (fun _ _ => by simp) ih
  | case6 current c rest hcrlf hr hn ih => exact ih

/-- What follows a line with a break does not change it. -/
theorem filled_toChars_append {line : PhysicalLine} {rest : List Char}
    (h : line.ending ≠ .none ∨ rest = []) :
    filled (line.toChars ++ rest) = filled line.text ++ filled rest := by
  obtain ⟨text, ending⟩ := line
  cases ending with
  | none =>
    obtain rfl := h.resolve_left (by simp)
    simp [PhysicalLine.toChars, LineEnd.toChars]
  | lf | cr =>
    simp only [PhysicalLine.toChars, LineEnd.toChars, List.append_assoc, List.singleton_append]
    exact filled_append_break text rfl rest
  | crlf =>
    simp only [PhysicalLine.toChars, LineEnd.toChars, List.append_assoc, List.cons_append,
      List.nil_append]
    rw [filled_append_break text rfl, filled_break_cons rfl]

/-- Where only the last line may stand open, reading joined lines gives each as it was. -/
theorem filled_joinLines {lines : List PhysicalLine} (h : OnlyLastOpen lines) :
    filled (joinLines lines) = lines.flatMap fun line => filled line.text := by
  unfold joinLines
  induction lines with
  | nil => simp
  | cons line rest ih =>
    obtain ⟨hline, hrest⟩ := List.pairwise_cons.1 h
    have hclosed : line.ending ≠ .none ∨ rest.flatMap PhysicalLine.toChars = [] := by
      cases rest with
      | nil => exact Or.inr rfl
      | cons next rest => exact Or.inl (hline next List.mem_cons_self)
    rw [List.flatMap_cons, List.flatMap_cons, filled_toChars_append hclosed, ih hrest]

end SourceAudit.Text
