-- The lines of an edited code, as a scan or the next edit reads them. They are the lines that were
-- put in place of the old ones, unless an edit puts a line feed right behind a carriage return: this
-- makes one break of two, and a line is lost.

import SourceAudit.Proofs.EditedLines
import SourceAudit.Proofs.SimultaneousEdits
import SourceAudit.Proofs.TornBreaks

namespace SourceAudit.Edit

open SourceAudit.Text (LineEnd PhysicalLine OnlyLastOpen Torn Whole settled mended)

/-! ## Lines that stand for one line -/

section InPlace

variable {default : LineEnd} {edit? : Option Edit} {line : PhysicalLine}

theorem inPlace_ne_nil : inPlace default edit? line ≠ [] := by
  cases edit? with
  | none => exact List.cons_ne_nil _ _
  | some edit => exact List.length_pos_iff.1 (replaced_length_pos default line edit)

theorem no_break_of_mem_inPlace (hline : ∀ c ∈ line.text, Text.isBreak c = false)
    {other : PhysicalLine} (h : other ∈ inPlace default edit? line) :
    ∀ c ∈ other.text, Text.isBreak c = false := by
  cases edit? with
  | none => rwa [List.mem_singleton.1 h]
  | some edit =>
    have hpiece : other.text ∈ (replaced default line edit).map (·.text) := List.mem_map_of_mem h
    rw [replaced, map_text_replacementLines] at hpiece
    exact Text.no_break_of_mem_pieces hpiece

theorem ending_getLast?_replacementLines (default ending : LineEnd) {pieces : List (List Char)}
    (h : pieces ≠ []) :
    (replacementLines default ending pieces).getLast?.map (·.ending) = some ending := by
  fun_induction replacementLines default ending pieces with
  | case1 => exact absurd rfl h
  | case2 last => rfl
  | case3 piece rest hrest ih =>
    have hmore : replacementLines default ending rest ≠ [] := by
      rw [← List.length_pos_iff, replacementLines_length]
      exact List.length_pos_iff.2 hrest
    rw [List.getLast?_cons_of_ne_nil hmore, ih hrest]

/-- The last of the lines that stand for a line ends as that line does. -/
theorem ending_getLast?_inPlace (default : LineEnd) (edit? : Option Edit) (line : PhysicalLine) :
    (inPlace default edit? line).getLast?.map (·.ending) = some line.ending := by
  cases edit? with
  | none => rfl
  | some edit => exact ending_getLast?_replacementLines _ _ (Text.piecesFrom_ne_nil [] _)

theorem ending_of_mem_replacementLines {ending : LineEnd} {pieces : List (List Char)}
    {other : PhysicalLine} (h : other ∈ replacementLines default ending pieces) :
    other.ending = ending ∨ ending = .none ∧ other.ending = default := by
  fun_induction replacementLines default ending pieces with
  | case1 => cases h
  | case2 last =>
    rw [List.mem_singleton.1 h]
    exact Or.inl rfl
  | case3 piece rest hrest ih =>
    rcases List.mem_cons.1 h with rfl | h
    · by_cases hending : ending = .none
      · exact Or.inr ⟨hending, if_pos hending⟩
      · exact Or.inl (if_neg hending)
    · exact ih h

/-- There is no torn break among the lines that stand for a line: those with a carriage return all
have one. -/
theorem whole_inPlace (hdefault : default ≠ .cr) (edit? : Option Edit) (line : PhysicalLine) :
    Whole (inPlace default edit? line) := by
  cases edit? with
  | none => exact List.isChain_singleton _
  | some edit =>
    apply List.Pairwise.isChain
    apply List.pairwise_of_forall_mem_list
    rintro a ha b hb ⟨hcr, rfl⟩
    rcases ending_of_mem_replacementLines ha with h | ⟨hnone, h⟩
    · rcases ending_of_mem_replacementLines hb with h' | ⟨hnone, -⟩
      · rw [← h, hcr] at h'
        cases h'
      · rw [← h, hcr] at hnone
        cases hnone
    · exact hdefault (h.symm.trans hcr)

end InPlace

/-! ## The lines put in place -/

/-- The physical lines that edits put in place of those of a code. -/
def linesPut (code : String) (edits : List Edit) : List PhysicalLine :=
  let lines := Text.physicalLines code.toList
  (lines.mapIdx fun i line =>
    inPlace (defaultBreak lines) (lastFor? edits ((i : Int) + 1)) line).flatten

theorem toList_applyEdits (code : String) (edits : List Edit) :
    (applyEdits code edits).toList = Text.joinLines (linesPut code edits) := by
  unfold applyEdits linesPut
  dsimp only
  rw [foldl_bottomUp, String.toList_ofList]

theorem readable_linesPut (code : String) (edits : List Edit) :
    Text.Readable (settled (linesPut code edits)) := by
  have hlines := Text.canonical_physicalLines code.toList
  apply Text.readable_settled
  · intro other hother
    obtain ⟨block, hblock, hother⟩ := List.mem_flatten.1 hother
    obtain ⟨i, hi, rfl⟩ := List.mem_mapIdx.1 hblock
    exact no_break_of_mem_inPlace (hlines.no_break _ (List.getElem_mem hi)) hother
  · exact onlyLastOpen_flatten (defaultBreak_ne_none _) hlines.only_last_open _

/-- An edited code is read as the lines put in place, with torn breaks made whole. -/
theorem physicalLines_applyEdits (code : String) (edits : List Edit) :
    Text.physicalLines (applyEdits code edits).toList = mended (settled (linesPut code edits)) := by
  rw [toList_applyEdits, ← Text.joinLines_settled,
    Text.physicalLines_joinLines_of_readable (readable_linesPut code edits)]

/-! ## Where a line feed comes to stand behind a carriage return -/

/-- A line of the code ends with a carriage return, and what is written for the next one begins
with a line feed. -/
def Tears (code : String) (edits : List Edit) : Prop :=
  ∃ (i : Nat) (line next : PhysicalLine),
    (Text.physicalLines code.toList)[i]? = some line ∧
      (Text.physicalLines code.toList)[i + 1]? = some next ∧ line.ending = .cr ∧
      (written code.toList (lastFor? edits ((i : Int) + 2)) next).head? = some '\n'

theorem head?_written {code : List Char} {edit? : Option Edit} {line : PhysicalLine}
    (hline : ∀ c ∈ line.text, Text.isBreak c = false) :
    (written code edit? line).head? = some '\n' ↔
      (inPlace (defaultBreak (Text.physicalLines code)) edit? line).head? = some ⟨[], .lf⟩ := by
  rw [← joinLines_inPlace, Text.head?_joinLines fun _ h => no_break_of_mem_inPlace hline h]
  exact onlyLastOpen_inPlace (defaultBreak_ne_none _) edit? line

/-- Between the lines that stand for one line and those that stand for the next, only the break of
the first line and the front of what follows count. -/
theorem torn_inPlace_iff {default : LineEnd} {edit? nextEdit? : Option Edit}
    {line next : PhysicalLine} :
    (∀ last ∈ (inPlace default edit? line).getLast?, ∀ first ∈ (inPlace default nextEdit? next).head?,
        ¬Torn last first) ↔
      ¬(line.ending = .cr ∧ (inPlace default nextEdit? next).head? = some ⟨[], .lf⟩) := by
  obtain ⟨last, hlast, hending⟩ :=
    Option.map_eq_some_iff.1 (ending_getLast?_inPlace default edit? line)
  rw [hlast, ← hending]
  constructor
  · rintro h ⟨hcr, hhead⟩
    exact h last rfl _ hhead ⟨hcr, rfl⟩
  · rintro h other hother first hfirst ⟨hcr, rfl⟩
    obtain rfl := Option.mem_some_iff.1 hother
    exact h ⟨hcr, hfirst⟩

theorem whole_linesPut_iff (code : String) (edits : List Edit) :
    Whole (linesPut code edits) ↔ ¬Tears code edits := by
  have hfree := (Text.canonical_physicalLines code.toList).no_break
  have hdefault : defaultBreak (Text.physicalLines code.toList) ≠ .cr := by
    unfold defaultBreak
    split <;> simp
  unfold Whole linesPut
  dsimp only
  rw [List.isChain_flatten, and_iff_right, List.isChain_iff_getElem]
  · simp only [List.getElem_mapIdx, List.length_mapIdx, torn_inPlace_iff]
    constructor
    · rintro h ⟨i, line, next, hline, hnext, hcr, hhead⟩
      obtain ⟨_, rfl⟩ := List.getElem?_eq_some_iff.1 hline
      obtain ⟨hi, rfl⟩ := List.getElem?_eq_some_iff.1 hnext
      exact h i hi ⟨hcr, (head?_written (hfree _ (List.getElem_mem hi))).1 hhead⟩
    · rintro h i hi ⟨hcr, hhead⟩
      exact h ⟨i, _, _, List.getElem?_eq_getElem _, List.getElem?_eq_getElem hi, hcr,
        (head?_written (hfree _ (List.getElem_mem hi))).2 hhead⟩
  · intro block hblock
    obtain ⟨i, hi, rfl⟩ := List.mem_mapIdx.1 hblock
    exact whole_inPlace hdefault _ _
  · intro hempty
    obtain ⟨i, hi, hblock⟩ := List.mem_mapIdx.1 hempty
    exact inPlace_ne_nil hblock

/-! ## The lines that edits give -/

/-- What is given for a line: the pieces of its edit, or the line itself. -/
def linesFor (edit? : Option Edit) (line : String) : List String :=
  match edit? with
  | some edit => (Text.pieces edit.replacement.toList).map String.ofList
  | none => [line]

/-- What is given for the lines of a code, by the last edit of each. -/
def linesGiven (edits : List Edit) (lines : List String) : List String :=
  (lines.mapIdx fun i line => linesFor (lastFor? edits ((i : Int) + 1)) line).flatten

/-- There is no break behind the last line. -/
def EndsOpen (code : String) : Prop :=
  ∃ c, code.toList.getLast? = some c ∧ Text.isBreak c = false

instance (code : String) : Decidable (EndsOpen code) :=
  decidable_of_iff (code.toList.getLast?.any (!Text.isBreak ·) = true) <| by
    simp [EndsOpen, Option.any_eq_true]

/-- What is given for the lines of a code, where an empty last one does not count if there is no
break behind it. -/
def linesCounted (code : String) (edits : List Edit) : List String :=
  let given := linesGiven edits (Text.lines code)
  if EndsOpen code ∧ given.getLast? = some "" then given.dropLast else given

theorem map_text_inPlace (default : LineEnd) (edit? : Option Edit) (line : PhysicalLine) :
    (inPlace default edit? line).map (fun other => String.ofList other.text) =
      linesFor edit? (String.ofList line.text) := by
  cases edit? with
  | none => rfl
  | some edit =>
    unfold inPlace replaced linesFor
    dsimp only
    have htexts := congrArg (List.map String.ofList) <|
      map_text_replacementLines default line.ending (Text.pieces edit.replacement.toList)
    rwa [List.map_map] at htexts

theorem map_text_flatten (default : LineEnd) (edit? : Nat → Option Edit)
    (lines : List PhysicalLine) :
    (lines.mapIdx fun i line => inPlace default (edit? i) line).flatten.map
        (fun line => String.ofList line.text) =
      ((lines.map fun line => String.ofList line.text).mapIdx fun i line =>
        linesFor (edit? i) line).flatten := by
  induction lines generalizing edit? with
  | nil => rfl
  | cons line rest ih =>
    rw [List.mapIdx_cons, List.flatten_cons, List.map_append, map_text_inPlace,
      ih fun i => edit? (i + 1), List.map_cons, List.mapIdx_cons, List.flatten_cons]

theorem map_text_linesPut (code : String) (edits : List Edit) :
    (linesPut code edits).map (fun line => String.ofList line.text) =
      linesGiven edits (Text.lines code) := by
  unfold linesPut linesGiven
  dsimp only
  rw [map_text_flatten _ fun i => lastFor? edits ((i : Int) + 1), Text.map_text_physicalLines]

/-- A code stands open at its end where its last physical line does. -/
theorem endsOpen_iff {code : String} :
    EndsOpen code ↔
      (Text.physicalLines code.toList).getLast?.map (·.ending) = some .none := by
  have hlines := Text.canonical_physicalLines code.toList
  unfold EndsOpen
  rw [← Text.joinLines_physicalLines code.toList, Text.physicalLines_joinLines hlines]
  generalize Text.physicalLines code.toList = lines at *
  rcases lines.eq_nil_or_concat' with rfl | ⟨front, ⟨text, ending⟩, rfl⟩
  · simp [Text.joinLines]
  · have hchars : Text.joinLines (front ++ [⟨text, ending⟩]) =
        Text.joinLines front ++ text ++ ending.toChars := by
      simp [Text.joinLines, PhysicalLine.toChars]
    have hmem := List.mem_append_right front (List.mem_singleton_self (⟨text, ending⟩ : PhysicalLine))
    rw [hchars]
    cases ending with
    | none =>
      have hfilled : text ≠ [] := hlines.open_filled _ hmem rfl
      have hfree : Text.isBreak (text.getLast hfilled) = false :=
        hlines.no_break _ hmem _ (List.getLast_mem hfilled)
      simp [LineEnd.toChars, hfilled, List.getLast?_eq_getLast_of_ne_nil, hfree]
    | lf | cr | crlf => simp [LineEnd.toChars, Text.isBreak]

/-- Edits leave open at the end what was open. -/
theorem ending_getLast?_linesPut (code : String) (edits : List Edit) :
    (linesPut code edits).getLast?.map (·.ending) =
      (Text.physicalLines code.toList).getLast?.map (·.ending) := by
  unfold linesPut
  dsimp only
  generalize Text.physicalLines code.toList = lines
  rcases lines.eq_nil_or_concat' with rfl | ⟨front, last, rfl⟩
  · rfl
  · rw [List.mapIdx_concat, List.flatten_append, List.flatten_singleton,
      List.getLast?_append_of_ne_nil _ inPlace_ne_nil, ending_getLast?_inPlace, List.getLast?_concat]
    rfl

theorem map_text_settled (lines : List PhysicalLine) :
    (settled lines).map (fun line => String.ofList line.text) =
      let texts := lines.map fun line => String.ofList line.text
      if lines.getLast?.map (·.ending) = some .none ∧ texts.getLast? = some "" then texts.dropLast
      else texts := by
  rcases lines.eq_nil_or_concat' with rfl | ⟨front, ⟨text, ending⟩, rfl⟩
  · rfl
  · have hlast : (⟨text, ending⟩ : PhysicalLine) = ⟨[], .none⟩ ↔
        ending = .none ∧ String.ofList text = "" := by
      simp [and_comm]
    rw [Text.settled_concat]
    simp only [hlast]
    split <;> simp_all

/-- The lines put in place have the texts that count. -/
theorem map_text_settled_linesPut (code : String) (edits : List Edit) :
    (settled (linesPut code edits)).map (fun line => String.ofList line.text) =
      linesCounted code edits := by
  unfold linesCounted
  rw [map_text_settled, ending_getLast?_linesPut, map_text_linesPut]
  simp only [endsOpen_iff]

/-! ## Where a line comes to stand -/

/-- How many lines there are more where there is an edit of a line or none. -/
def growth (edit? : Option Edit) : Nat :=
  match edit? with
  | some edit => (Text.pieces edit.replacement.toList).length - 1
  | none => 0

/-- How many lines edits add in front of the one with an index. -/
def addedAbove (edits : List Edit) : Nat → Nat
  | 0 => 0
  | index + 1 => addedAbove edits index + growth (lastFor? edits ((index : Int) + 1))

theorem length_inPlace (default : LineEnd) (edit? : Option Edit) (line : PhysicalLine) :
    (inPlace default edit? line).length = growth edit? + 1 := by
  cases edit? with
  | none => rfl
  | some edit =>
    have hpieces : 0 < (Text.pieces edit.replacement.toList).length :=
      List.length_pos_iff.2 (Text.piecesFrom_ne_nil [] _)
    unfold inPlace replaced growth
    dsimp only
    rw [replacementLines_length]
    omega

theorem length_flatten_inPlace (default : LineEnd) (edits : List Edit) (lines : List PhysicalLine) :
    (lines.mapIdx fun i line =>
        inPlace default (lastFor? edits ((i : Int) + 1)) line).flatten.length =
      lines.length + addedAbove edits lines.length := by
  induction lines using List.reverseRecOn with
  | nil => rfl
  | append_singleton front last ih =>
    rw [List.mapIdx_concat, List.flatten_append, List.length_append, ih, List.flatten_singleton,
      length_inPlace, List.length_append, List.length_singleton, addedAbove]
    omega

/-- A line without an edit is moved down by the lines that are added above it. -/
theorem getElem?_linesPut {code : String} {edits : List Edit} {i : Nat} {line : PhysicalLine}
    (hline : (Text.physicalLines code.toList)[i]? = some line)
    (hkept : lastFor? edits ((i : Int) + 1) = none) :
    (linesPut code edits)[i + addedAbove edits i]? = some line := by
  unfold linesPut
  dsimp only
  generalize defaultBreak (Text.physicalLines code.toList) = default
  generalize Text.physicalLines code.toList = lines at hline
  obtain ⟨front, back, rfl, rfl⟩ : ∃ front back, lines = front ++ line :: back ∧ front.length = i := by
    obtain ⟨hi, rfl⟩ := List.getElem?_eq_some_iff.1 hline
    exact ⟨lines.take i, lines.drop (i + 1), by simp, List.length_take_of_le (Nat.le_of_lt hi)⟩
  rw [List.mapIdx_append, List.mapIdx_cons, List.flatten_append, List.flatten_cons,
    List.getElem?_append_right (Nat.le_of_eq (length_flatten_inPlace default edits front)),
    length_flatten_inPlace, Nat.zero_add, hkept, Nat.sub_self]
  rfl

/-! ## The law -/

/-- An edited code is read as the lines that its edits give, an empty last one that stands open not
counted, just where no edit writes a line feed behind the carriage return of the line above it.
Then each line without an edit keeps its break, and comes to stand as many lines lower as were
added above it. With such a line feed, it is read as these lines with each torn break made whole,
so that a line is lost. -/
theorem edited_code_is_read_as_the_lines_given (code : String) (edits : List Edit) :
    (Text.lines (applyEdits code edits) = linesCounted code edits ↔ ¬Tears code edits) ∧
      (¬Tears code edits → ∀ (i : Nat) (line : PhysicalLine),
        (Text.physicalLines code.toList)[i]? = some line →
          (∀ edit ∈ edits, edit.line ≠ (i : Int) + 1) →
            (Text.physicalLines (applyEdits code edits).toList)[i + addedAbove edits i]? =
              some line) ∧
      Text.physicalLines (applyEdits code edits).toList = mended (settled (linesPut code edits)) := by
  have hread := physicalLines_applyEdits code edits
  have htexts : Text.lines (applyEdits code edits) =
      (mended (settled (linesPut code edits))).map fun line => String.ofList line.text := by
    rw [← Text.map_text_physicalLines, hread]
  have hwhole : ¬Tears code edits → Whole (settled (linesPut code edits)) := fun h =>
    Text.whole_settled_iff.2 ((whole_linesPut_iff code edits).2 h)
  refine ⟨⟨fun hlines => ?_, fun h => ?_⟩, fun h i line hline hkept => ?_, hread⟩
  · -- each torn break would cost a line
    have hlength := congrArg List.length hlines
    rw [htexts, ← map_text_settled_linesPut, List.length_map, List.length_map] at hlength
    exact (whole_linesPut_iff code edits).1
      (Text.whole_settled_iff.1 (Text.whole_of_length_mended hlength))
  · rw [htexts, Text.mended_eq_self (hwhole h), map_text_settled_linesPut]
  · rw [hread, Text.mended_eq_self (hwhole h)]
    refine Text.getElem?_settled (getElem?_linesPut hline (lastFor?_eq_none_iff.2 hkept)) ?_
    rintro rfl
    exact (Text.canonical_physicalLines code.toList).open_filled _ (List.mem_of_getElem? hline) rfl rfl

/-- A line that is emptied leaves its line feed right behind the carriage return of the line above
it; one line is read where two were given, and the first one has lost its own break. -/
theorem emptied_line_is_lost_behind_a_carriage_return :
    linesCounted "a\rb\n" [⟨2, ""⟩] = ["a", ""] ∧
      Text.lines (applyEdits "a\rb\n" [⟨2, ""⟩]) = ["a"] ∧
      Text.physicalLines "a\rb\n".toList = [⟨['a'], .cr⟩, ⟨['b'], .lf⟩] ∧
      Text.physicalLines (applyEdits "a\rb\n" [⟨2, ""⟩]).toList = [⟨['a'], .crlf⟩] := by
  decide +kernel

end SourceAudit.Edit
