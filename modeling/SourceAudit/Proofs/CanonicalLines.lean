-- A text and its physical lines tell the same. The lines by which edits number a text are those
-- that scans read, and put together they are the text again; no other lines in canonical form give
-- that text.

import SourceAudit.Proofs.FilledLines
import Mathlib.Data.List.Chain

namespace SourceAudit.Text

/-! ## Lines by way of line feeds -/

/-- The text with a line feed for each break of two characters. -/
def pairsAsFeeds : List Char → List Char
  | [] => []
  | '\r' :: '\n' :: rest => '\n' :: pairsAsFeeds rest
  | c :: rest => c :: pairsAsFeeds rest

/-- The text with a line feed for each break: first for those of two characters, then for the
carriage returns that are left. -/
def breaksAsFeeds (text : List Char) : List Char :=
  (pairsAsFeeds text).map fun c => if c = '\r' then '\n' else c

/-- What stands between line feeds, without the empty piece behind one at the end. -/
def betweenFeeds (text : List Char) : List (List Char) :=
  if text.getLast? = some '\n' then (text.splitOn '\n').dropLast
  else if text.isEmpty then [] else text.splitOn '\n'

theorem breaksAsFeeds_cr {rest : List Char} (h : ∀ tail, rest ≠ '\n' :: tail) :
    breaksAsFeeds ('\r' :: rest) = '\n' :: breaksAsFeeds rest := by
  unfold breaksAsFeeds
  rw [pairsAsFeeds]
  · rfl
  · intro tail _
    exact h tail

theorem breaksAsFeeds_char {c : Char} (rest : List Char) (hr : c ≠ '\r') :
    breaksAsFeeds (c :: rest) = c :: breaksAsFeeds rest := by
  unfold breaksAsFeeds
  rw [pairsAsFeeds, List.map_cons, if_neg hr]
  intro tail h
  exact absurd h hr

theorem betweenFeeds_of_no_feed {text : List Char} (h : '\n' ∉ text) :
    betweenFeeds text = if text.isEmpty then [] else [text] := by
  unfold betweenFeeds
  rw [if_neg fun hlast => h (List.mem_of_getLast? hlast), List.splitOn_eq_singleton h]

theorem betweenFeeds_append_feed {first : List Char} (h : '\n' ∉ first) (rest : List Char) :
    betweenFeeds (first ++ '\n' :: rest) = first :: betweenFeeds rest := by
  unfold betweenFeeds
  rw [List.splitOn_append_cons_self_of_not_mem h]
  cases rest with
  | nil => simp
  | cons c rest =>
    have hlast : (first ++ '\n' :: c :: rest).getLast? = (c :: rest).getLast? := by
      rw [List.getLast?_append_of_ne_nil first (List.cons_ne_nil _ _), List.getLast?_cons_cons]
    rw [hlast, List.dropLast_cons_of_ne_nil (List.splitOn_ne_nil _ _)]
    split <;> simp

theorem no_feed_of_no_break {text : List Char} (h : ∀ c ∈ text, isBreak c = false) :
    '\n' ∉ text := fun hmem => Bool.noConfusion (h '\n' hmem)

/-- Reading lines one by one and replacing all breaks first give the same lines. -/
theorem linesFrom_eq_betweenFeeds {current : List Char}
    (hcurrent : ∀ c ∈ current, isBreak c = false) (text : List Char) :
    linesFrom current text = betweenFeeds (current.reverse ++ breaksAsFeeds text) := by
  have hbegun : ∀ {cs : List Char}, (∀ c ∈ cs, isBreak c = false) → '\n' ∉ cs.reverse :=
    fun h => no_feed_of_no_break fun c hc => h c (List.mem_reverse.1 hc)
  fun_induction linesFrom current text with
  | case1 current hempty =>
    rw [List.isEmpty_iff.1 hempty]
    rfl
  | case2 current hempty =>
    rw [show breaksAsFeeds [] = [] from rfl, List.append_nil,
      betweenFeeds_of_no_feed (hbegun hcurrent), List.isEmpty_reverse, if_neg hempty]
  | case3 current rest ih =>
    rw [show breaksAsFeeds ('\r' :: '\n' :: rest) = '\n' :: breaksAsFeeds rest from rfl,
      betweenFeeds_append_feed (hbegun hcurrent), ih (by simp)]
    rfl
  | case4 current rest hcr ih =>
    rw [breaksAsFeeds_cr hcr, betweenFeeds_append_feed (hbegun hcurrent), ih (by simp)]
    rfl
  | case5 current rest ih =>
    rw [breaksAsFeeds_char rest (by decide), betweenFeeds_append_feed (hbegun hcurrent),
      ih (by simp)]
    rfl
  | case6 current c rest hcrlf hr hn ih =>
    rw [breaksAsFeeds_char rest hr, ih (List.forall_mem_cons.2 ⟨isBreak_eq_false hr hn, hcurrent⟩),
      List.reverse_cons, List.append_assoc, List.singleton_append]

/-! ## Canonical lines -/

/-- Physical lines as a text has them: there is no break inside of a line; each line but the last
ends with a break, and a last line without one is not empty; and no carriage return that ends a
line has a line feed right behind it. -/
structure Canonical (lines : List PhysicalLine) : Prop where
  no_break : ∀ line ∈ lines, ∀ c ∈ line.text, isBreak c = false
  only_last_open : OnlyLastOpen lines
  open_filled : ∀ line ∈ lines, line.ending = .none → line.text ≠ []
  no_torn_break : lines.IsChain fun line next => line.ending = .cr → next ≠ ⟨[], .lf⟩

theorem canonical_cons_iff {line : PhysicalLine} {rest : List PhysicalLine} :
    Canonical (line :: rest) ↔
      (∀ c ∈ line.text, isBreak c = false) ∧ (line.ending = .none → line.text ≠ [] ∧ rest = []) ∧
        (line.ending = .cr → rest.head? ≠ some ⟨[], .lf⟩) ∧ Canonical rest := by
  constructor
  · rintro ⟨hbreak, hopen, hfilled, htorn⟩
    obtain ⟨hline, hrest⟩ := List.pairwise_cons.1 hopen
    obtain ⟨hnext, htorn⟩ := List.isChain_cons.1 htorn
    obtain ⟨hfill, hfilled⟩ := List.forall_mem_cons.1 hfilled
    obtain ⟨hfree, hbreak⟩ := List.forall_mem_cons.1 hbreak
    refine ⟨hfree, fun hnone => ⟨hfill hnone, ?_⟩, fun hcr hhead => hnext _ hhead hcr rfl,
      hbreak, hrest, hfilled, htorn⟩
    exact List.eq_nil_iff_forall_not_mem.2 fun other hother => hline other hother hnone
  · rintro ⟨hfree, hopen, hcr, hbreak, hrest, hfilled, htorn⟩
    refine ⟨List.forall_mem_cons.2 ⟨hfree, hbreak⟩, ?_,
      List.forall_mem_cons.2 ⟨fun hnone => (hopen hnone).1, hfilled⟩, ?_⟩
    · refine .cons (fun other hother hnone => ?_) hrest
      rw [(hopen hnone).2] at hother
      cases hother
    · refine List.isChain_cons.2 ⟨?_, htorn⟩
      rintro next hnext hend rfl
      exact hcr hend hnext

theorem canonical_nil : Canonical [] :=
  ⟨by simp, .nil, by simp, .nil⟩

/-- Lines without breaks inside, of which only the last may stand open, begin with a line feed just
where the first of them is that line feed. -/
theorem head?_joinLines {lines : List PhysicalLine}
    (hfree : ∀ line ∈ lines, ∀ c ∈ line.text, isBreak c = false) (hopen : OnlyLastOpen lines) :
    (joinLines lines).head? = some '\n' ↔ lines.head? = some ⟨[], .lf⟩ := by
  cases lines with
  | nil => simp [joinLines]
  | cons line rest =>
    obtain ⟨hfree, -⟩ := List.forall_mem_cons.1 hfree
    obtain ⟨hnext, -⟩ := List.pairwise_cons.1 hopen
    obtain ⟨text, ending⟩ := line
    cases text with
    | cons c text =>
      have hc : c ≠ '\n' := by
        rintro rfl
        exact Bool.noConfusion (hfree '\n' List.mem_cons_self)
      simp [joinLines, PhysicalLine.toChars, hc]
    | nil =>
      cases ending with
      | none =>
        obtain rfl : rest = [] :=
          List.eq_nil_iff_forall_not_mem.2 fun other hother => hnext other hother rfl
        simp [joinLines, PhysicalLine.toChars, LineEnd.toChars]
      | lf | cr | crlf => simp [joinLines, PhysicalLine.toChars, LineEnd.toChars]

theorem Canonical.head?_joinLines {lines : List PhysicalLine} (h : Canonical lines) :
    (joinLines lines).head? = some '\n' ↔ lines.head? = some ⟨[], .lf⟩ :=
  Text.head?_joinLines h.no_break h.only_last_open

/-! ## The physical lines of a text -/

theorem joinLines_physicalLinesFrom (current text : List Char) :
    joinLines (physicalLinesFrom current text) = current.reverse ++ text := by
  fun_induction physicalLinesFrom current text with
  | case1 current hempty => simp [List.isEmpty_iff.1 hempty, joinLines]
  | case2 current hempty => simp [joinLines, PhysicalLine.toChars, LineEnd.toChars]
  | case3 current rest ih | case4 current rest hcr ih | case5 current rest ih =>
    unfold joinLines at ih ⊢
    rw [List.flatMap_cons, ih]
    simp [PhysicalLine.toChars, LineEnd.toChars]
  | case6 current c rest hcrlf hr hn ih =>
    rw [ih, List.reverse_cons, List.append_assoc, List.singleton_append]

/-- The physical lines of a text make up the text. -/
theorem joinLines_physicalLines (text : List Char) : joinLines (physicalLines text) = text :=
  joinLines_physicalLinesFrom [] text

theorem canonical_physicalLinesFrom {current : List Char}
    (hcurrent : ∀ c ∈ current, isBreak c = false) (text : List Char) :
    Canonical (physicalLinesFrom current text) := by
  have hbegun : ∀ {cs : List Char}, (∀ c ∈ cs, isBreak c = false) →
      ∀ c ∈ cs.reverse, isBreak c = false := fun h c hc => h c (List.mem_reverse.1 hc)
  fun_induction physicalLinesFrom current text with
  | case1 current hempty => exact canonical_nil
  | case2 current hempty =>
    have hfilled : current.reverse ≠ [] := fun h => hempty (by simpa using h)
    exact canonical_cons_iff.2
      ⟨hbegun hcurrent, fun _ => ⟨hfilled, rfl⟩, fun _ => by simp, canonical_nil⟩
  | case3 current rest ih | case5 current rest ih =>
    exact canonical_cons_iff.2
      ⟨hbegun hcurrent, LineEnd.noConfusion, LineEnd.noConfusion, ih (by simp)⟩
  | case4 current rest hcr ih =>
    have hrest := ih (by simp)
    refine canonical_cons_iff.2 ⟨hbegun hcurrent, LineEnd.noConfusion, fun _ hhead => ?_, hrest⟩
    -- a line feed alone on the next line would have been read with the carriage return
    have hfeed := hrest.head?_joinLines.2 hhead
    rw [← physicalLines, joinLines_physicalLines] at hfeed
    obtain ⟨tail, htail⟩ := List.head?_eq_some_iff.1 hfeed
    exact hcr tail htail
  | case6 current c rest hcrlf hr hn ih =>
    exact ih (List.forall_mem_cons.2 ⟨isBreak_eq_false hr hn, hcurrent⟩)

/-- The physical lines of a text are canonical. -/
theorem canonical_physicalLines (text : List Char) : Canonical (physicalLines text) :=
  canonical_physicalLinesFrom (by simp) text

/-! ## No other lines -/

theorem physicalLinesFrom_append {text : List Char} (h : ∀ c ∈ text, isBreak c = false)
    (current rest : List Char) :
    physicalLinesFrom current (text ++ rest) =
      physicalLinesFrom (text.reverse ++ current) rest := by
  induction text generalizing current with
  | nil => rfl
  | cons c text ih =>
    obtain ⟨hc, htext⟩ := List.forall_mem_cons.1 h
    have hr : c ≠ '\r' := by rintro rfl; cases hc
    have hn : c ≠ '\n' := by rintro rfl; cases hc
    rw [List.cons_append, physicalLinesFrom, ih htext, List.reverse_cons, List.append_assoc,
      List.singleton_append]
    · intro tail h
      exact absurd h hr
    · exact hr
    · exact hn

/-- Up to its first break, a text is its first line; the others are those of the rest. -/
theorem physicalLines_toChars_append {line : PhysicalLine}
    (hfree : ∀ c ∈ line.text, isBreak c = false) {rest : List Char}
    (hopen : line.ending = .none → line.text ≠ [] ∧ rest = [])
    (hcr : line.ending = .cr → rest.head? ≠ some '\n') :
    physicalLines (line.toChars ++ rest) = line :: physicalLines rest := by
  obtain ⟨text, ending⟩ := line
  unfold physicalLines PhysicalLine.toChars
  dsimp only at hfree hopen hcr ⊢
  rw [List.append_assoc, physicalLinesFrom_append hfree, List.append_nil]
  cases ending with
  | none =>
    obtain ⟨hfilled, rfl⟩ := hopen rfl
    simp [LineEnd.toChars, physicalLinesFrom, hfilled]
  | lf => simp [LineEnd.toChars, physicalLinesFrom]
  | crlf => simp [LineEnd.toChars, physicalLinesFrom]
  | cr =>
    simp only [LineEnd.toChars, List.singleton_append]
    rw [physicalLinesFrom, List.reverse_reverse]
    rintro tail rfl
    exact hcr rfl rfl

/-- Canonical lines are read from the text that they make up. -/
theorem physicalLines_joinLines {lines : List PhysicalLine} (h : Canonical lines) :
    physicalLines (joinLines lines) = lines := by
  induction lines with
  | nil => rfl
  | cons line rest ih =>
    obtain ⟨hfree, hopen, hcr, hrest⟩ := canonical_cons_iff.1 h
    rw [joinLines, List.flatMap_cons, ← joinLines, physicalLines_toChars_append hfree, ih hrest]
    · intro hnone
      obtain ⟨hfilled, rfl⟩ := hopen hnone
      exact ⟨hfilled, rfl⟩
    · exact fun hend hfeed => hcr hend (hrest.head?_joinLines.1 hfeed)

/-! ## The law -/

/-- Edits number the lines of a text as scans do, and as replacing all breaks by line feeds first
would give them. With their breaks they are the text again, they are canonical, and canonical lines
are just those that are read from the text that they make up. -/
theorem edits_and_scans_read_the_same_lines (text : String) :
    (physicalLines text.toList).map (fun line => String.ofList line.text) = lines text ∧
      lines text = (betweenFeeds (breaksAsFeeds text.toList)).map String.ofList ∧
      joinLines (physicalLines text.toList) = text.toList ∧
      Canonical (physicalLines text.toList) ∧
      ∀ others, Canonical others ↔ physicalLines (joinLines others) = others := by
  refine ⟨map_text_physicalLines text, ?_, joinLines_physicalLines _, canonical_physicalLines _,
    fun others => ⟨physicalLines_joinLines, fun h => h ▸ canonical_physicalLines _⟩⟩
  unfold lines
  rw [linesFrom_eq_betweenFeeds (by simp)]
  rfl

/-- Lines that tear a break of two characters apart are not the ones that are read. -/
example : physicalLines (joinLines [⟨['a'], .cr⟩, ⟨[], .lf⟩]) = [⟨['a'], .crlf⟩] := by
  decide

end SourceAudit.Text
