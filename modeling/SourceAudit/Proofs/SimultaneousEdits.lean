-- Edits all at once. Splicing one after the other from the bottom up gives the text in which each
-- line is as it was, or the pieces of its last replacement, joined by the break of the line. So it
-- matters only which edit of a line comes last, and edits of lines that are not there do not count.

import SourceAudit.Proofs.CanonicalLines
import SourceAudit.Proofs.Splicing
import Mathlib.Data.List.Infix

namespace SourceAudit

open SourceAudit.Text (LineEnd PhysicalLine)

/-! ## The break of two characters -/

namespace Text

/-- A line ends with the break of two characters where the text has them in a row. -/
theorem any_crlf_physicalLinesFrom (current text : List Char) :
    (physicalLinesFrom current text).any (·.ending = .crlf) = true ↔ ['\r', '\n'] <:+: text := by
  fun_induction physicalLinesFrom current text with
  | case1 current hempty | case2 current hempty => simp
  | case3 current rest ih =>
    have hfront : ['\r', '\n'] <:+: '\r' :: '\n' :: rest := ⟨[], rest, rfl⟩
    simp [hfront]
  | case4 current rest hcr ih =>
    have hfront : ¬['\r', '\n'] <+: '\r' :: rest := by
      rintro ⟨tail, htail⟩
      exact hcr tail (by simpa using htail.symm)
    rw [List.infix_cons_iff, ← ih]
    simp [hfront]
  | case5 current rest ih =>
    have hfront : ¬['\r', '\n'] <+: '\n' :: rest := by simp
    rw [List.infix_cons_iff, ← ih]
    simp [hfront]
  | case6 current c rest hcrlf hr hn ih =>
    have hfront : ¬['\r', '\n'] <+: c :: rest := by simp [Ne.symm hr]
    rw [List.infix_cons_iff, ih]
    simp [hfront]

end Text

namespace Edit

/-! ## The last edits -/

theorem lastFor?_eq_getLast? (edits : List Edit) (line : Int) :
    lastFor? edits line = (edits.filter (·.line = line)).getLast? := by
  rw [lastFor?, List.getLast?_eq_head?_reverse, ← List.filter_reverse, List.head?_filter]

/-- The edit is of a line that the code has. -/
def hasPlaceIn (edit : Edit) (code : String) : Bool :=
  1 ≤ edit.line ∧ edit.line ≤ (Text.lines code).length

theorem length_lines (code : String) :
    (Text.lines code).length = (Text.physicalLines code.toList).length := by
  rw [← Text.map_text_physicalLines, List.length_map]

/-- Edits that have no place in the code are the last ones of no line. -/
theorem lastFor?_filter_hasPlaceIn (edits : List Edit) {code : String} {i : Nat}
    (h : i < (Text.physicalLines code.toList).length) :
    lastFor? (edits.filter (·.hasPlaceIn code)) ((i : Int) + 1) =
      lastFor? edits ((i : Int) + 1) := by
  rw [lastFor?_eq_getLast?, lastFor?_eq_getLast?, List.filter_filter]
  congr 1
  apply List.filter_congr
  intro edit _
  have hlength := length_lines code
  by_cases hline : edit.line = (i : Int) + 1
  · have hplace : edit.hasPlaceIn code = true := by
      simp only [hasPlaceIn, decide_eq_true_eq]
      omega
    simp [hline, hplace]
  · simp [hline]

/-! ## Lines in the edited code -/

/-- The break between the pieces that stand for a line: its own one, or on an open line the one of
two characters, if the code has it, and a line feed otherwise. -/
def joint (code : List Char) (ending : LineEnd) : LineEnd :=
  if ending ≠ .none then ending
  else if ['\r', '\n'] <:+: code then .crlf
  else .lf

/-- What is written for a line: the line with its break, or the pieces of a replacement, joined,
with the break of the line behind them. -/
def written (code : List Char) (edit? : Option Edit) (line : PhysicalLine) : List Char :=
  match edit? with
  | none => line.toChars
  | some edit =>
    (joint code line.ending).toChars.intercalate (Text.pieces edit.replacement.toList) ++
      line.ending.toChars

/-- The code with each line replaced by what its last edit says, all at once. -/
def allAtOnce (code : String) (edits : List Edit) : String :=
  String.ofList <| ((Text.physicalLines code.toList).mapIdx fun i line =>
    written code.toList (lastFor? edits ((i : Int) + 1)) line).flatten

theorem joint_eq (code : List Char) (ending : LineEnd) :
    joint code ending =
      if ending = .none then defaultBreak (Text.physicalLines code) else ending := by
  have hcrlf := Text.any_crlf_physicalLinesFrom [] code
  unfold joint defaultBreak Text.physicalLines
  simp only [hcrlf, ite_not]

theorem joinLines_replacementLines (default ending : LineEnd) {pieces : List (List Char)}
    (h : pieces ≠ []) :
    Text.joinLines (replacementLines default ending pieces) =
      (if ending = .none then default else ending).toChars.intercalate pieces ++
        ending.toChars := by
  fun_induction replacementLines default ending pieces with
  | case1 => exact absurd rfl h
  | case2 last => simp [Text.joinLines, PhysicalLine.toChars]
  | case3 piece rest hrest ih =>
    rw [Text.joinLines, List.flatMap_cons, ← Text.joinLines, ih hrest,
      List.intercalate_cons_of_ne_nil hrest]
    simp [PhysicalLine.toChars]

theorem joinLines_inPlace (code : List Char) (edit? : Option Edit) (line : PhysicalLine) :
    Text.joinLines (inPlace (defaultBreak (Text.physicalLines code)) edit? line) =
      written code edit? line := by
  cases edit? with
  | none => simp [inPlace, written, Text.joinLines]
  | some edit =>
    unfold inPlace replaced written
    dsimp only
    rw [Text.pieces, joinLines_replacementLines _ _ (Text.piecesFrom_ne_nil [] _), joint_eq]

/-- Splicing edits one after the other gives the code with all of them made at once. -/
theorem applyEdits_eq_allAtOnce (code : String) (edits : List Edit) :
    applyEdits code edits = allAtOnce code edits := by
  unfold applyEdits allAtOnce
  dsimp only
  rw [foldl_bottomUp, Text.joinLines, flatMap_flatten_mapIdx]
  simp only [← joinLines_inPlace]
  rfl

/-- What becomes of a code depends on the last edit of each of its lines alone. -/
theorem applyEdits_congr {code : String} {edits others : List Edit}
    (h : ∀ i < (Text.physicalLines code.toList).length,
      lastFor? edits ((i : Int) + 1) = lastFor? others ((i : Int) + 1)) :
    applyEdits code edits = applyEdits code others := by
  rw [applyEdits_eq_allAtOnce, applyEdits_eq_allAtOnce]
  unfold allAtOnce
  rw [mapIdx_congr fun i hi line => by rw [h i hi]]

/-! ## Edits that do not count -/

theorem applyEdits_filter_hasPlaceIn (code : String) (edits : List Edit) :
    applyEdits code (edits.filter (·.hasPlaceIn code)) = applyEdits code edits :=
  applyEdits_congr fun _ h => lastFor?_filter_hasPlaceIn edits h

theorem applyEdits_nil (code : String) : applyEdits code [] = code := by
  have hkept : (Text.physicalLines code.toList).flatMap PhysicalLine.toChars = code.toList :=
    Text.joinLines_physicalLines code.toList
  have hnone : bottomUp [] = [] := by simp [bottomUp, latest]
  rw [applyEdits, hnone, List.foldl_nil, Text.joinLines, hkept, String.ofList_toList]

/-! ## The law -/

/-- Splicing edits one after the other from the bottom up is the same as making all of them at
once: each line stands as it was, or as the pieces of the last replacement given for it. Edits of
lines that the code does not have make no difference, wherever they stand among others; the order
of edits matters only among those of one line; and where no edit is of a line of the code, the code
is left as it is. -/
theorem splicing_edits_makes_them_all_at_once (code : String) (edits : List Edit) :
    applyEdits code edits = allAtOnce code edits ∧
      applyEdits code (edits.filter (·.hasPlaceIn code)) = applyEdits code edits ∧
      (∀ others : List Edit,
        (∀ line, others.filter (·.line = line) = edits.filter (·.line = line)) →
          applyEdits code others = applyEdits code edits) ∧
      ((∀ edit ∈ edits, edit.hasPlaceIn code = false) → applyEdits code edits = code) := by
  refine ⟨applyEdits_eq_allAtOnce code edits, applyEdits_filter_hasPlaceIn code edits,
    fun others hothers => ?_, fun hnone => ?_⟩
  · apply applyEdits_congr
    intro i _
    rw [lastFor?_eq_getLast?, lastFor?_eq_getLast?, hothers]
  · have hempty : edits.filter (·.hasPlaceIn code) = [] := by
      simpa [List.filter_eq_nil_iff] using hnone
    rw [← applyEdits_filter_hasPlaceIn, hempty, applyEdits_nil]

/-- The open line takes the break of two characters, and the edit of line three, which only the
edited code has, does nothing. -/
example : applyEdits "a\r\nb" [⟨3, "z"⟩, ⟨2, "c\nd"⟩, ⟨1, "x"⟩] = "x\r\nc\r\nd" := by
  cbv

end Edit

end SourceAudit
