-- What an edited text reads like. Its lines that are not empty are those of the texts that stand
-- for the lines of the code: a line itself, or the last replacement given for it. Breaks that are
-- kept, added or left open at the end neither join such lines nor cut them.

import SourceAudit.Proofs.Splicing

namespace SourceAudit.Edit

open SourceAudit.Text (LineEnd PhysicalLine OnlyLastOpen filled)

/-! ## Breaks -/

theorem defaultBreak_ne_none (lines : List PhysicalLine) : defaultBreak lines ≠ .none := by
  unfold defaultBreak
  split <;> simp

/-- The lines that stand for a line with a break have breaks. -/
theorem closed_of_mem_replacementLines {default ending : LineEnd} (hending : ending ≠ .none)
    {pieces : List (List Char)} {line : PhysicalLine}
    (h : line ∈ replacementLines default ending pieces) : line.ending ≠ .none := by
  fun_induction replacementLines default ending pieces with
  | case1 => cases h
  | case2 last => rwa [List.mem_singleton.1 h]
  | case3 piece rest hrest ih =>
    rcases List.mem_cons.1 h with rfl | h
    · rwa [if_neg hending]
    · exact ih h

theorem closed_of_mem_inPlace {default : LineEnd} {edit? : Option Edit} {line other : PhysicalLine}
    (hline : line.ending ≠ .none) (h : other ∈ inPlace default edit? line) :
    other.ending ≠ .none := by
  cases edit? with
  | none => rwa [List.mem_singleton.1 h]
  | some edit => exact closed_of_mem_replacementLines hline h

section Breaks

variable {default : LineEnd} (hdefault : default ≠ .none)
include hdefault

theorem onlyLastOpen_replacementLines (ending : LineEnd) (pieces : List (List Char)) :
    OnlyLastOpen (replacementLines default ending pieces) := by
  fun_induction replacementLines default ending pieces with
  | case1 => exact .nil
  | case2 last => exact List.pairwise_singleton _ _
  | case3 piece rest hrest ih =>
    refine .cons (fun _ _ => ?_) ih
    dsimp only
    split
    · exact hdefault
    · next hending => exact hending

theorem onlyLastOpen_inPlace (edit? : Option Edit) (line : PhysicalLine) :
    OnlyLastOpen (inPlace default edit? line) := by
  cases edit? with
  | none => exact List.pairwise_singleton _ _
  | some edit => exact onlyLastOpen_replacementLines hdefault _ _

/-- Where only the last line stands open, only the last one does after edits. -/
theorem onlyLastOpen_flatten {lines : List PhysicalLine} (h : OnlyLastOpen lines)
    (edit? : Nat → Option Edit) :
    OnlyLastOpen (lines.mapIdx fun i line => inPlace default (edit? i) line).flatten := by
  induction lines generalizing edit? with
  | nil => exact .nil
  | cons line rest ih =>
    obtain ⟨hline, hrest⟩ := List.pairwise_cons.1 h
    rw [List.mapIdx_cons, List.flatten_cons]
    refine List.pairwise_append.2
      ⟨onlyLastOpen_inPlace hdefault _ line, ih hrest fun i => edit? (i + 1), ?_⟩
    intro a ha b hb
    cases rest with
    | nil => cases hb
    | cons next rest => exact closed_of_mem_inPlace (hline next List.mem_cons_self) ha

end Breaks

/-! ## Texts in place of lines -/

theorem map_text_replacementLines (default ending : LineEnd) (pieces : List (List Char)) :
    (replacementLines default ending pieces).map (·.text) = pieces := by
  fun_induction replacementLines default ending pieces with
  | case1 => rfl
  | case2 last => rfl
  | case3 piece rest hrest ih => rw [List.map_cons, ih]

/-- The text that stands for a line, where there is an edit of it or none. -/
def textInPlace (edit? : Option Edit) (line : String) : String :=
  match edit? with
  | some edit => edit.replacement
  | none => line

/-- The texts that stand for lines: the last replacement given for a line, or the line itself. -/
def textsInPlace (edits : List Edit) (lines : List String) : List String :=
  lines.mapIdx fun i line => textInPlace (lastFor? edits ((i : Int) + 1)) line

theorem getElem?_textsInPlace (edits : List Edit) (lines : List String) (i : Nat) :
    (textsInPlace edits lines)[i]? =
      lines[i]?.map (textInPlace (lastFor? edits ((i : Int) + 1))) := by
  unfold textsInPlace
  rw [List.getElem?_mapIdx]

theorem flatMap_filled_of_no_break {pieces : List (List Char)}
    (h : ∀ piece ∈ pieces, ∀ c ∈ piece, Text.isBreak c = false) :
    pieces.flatMap filled = pieces.filter (!·.isEmpty) := by
  induction pieces with
  | nil => rfl
  | cons piece rest ih =>
    obtain ⟨hpiece, hrest⟩ := List.forall_mem_cons.1 h
    rw [List.flatMap_cons, Text.filled_of_no_break hpiece, ih hrest, ← List.filter_append,
      List.singleton_append]

theorem flatMap_filled_inPlace (default : LineEnd) (edit? : Option Edit) (line : PhysicalLine) :
    (inPlace default edit? line).flatMap (fun other => filled other.text) =
      filled (textInPlace edit? (String.ofList line.text)).toList := by
  cases edit? with
  | none => simp [inPlace, textInPlace]
  | some edit =>
    unfold inPlace replaced textInPlace
    dsimp only
    rw [← List.flatMap_map, map_text_replacementLines,
      flatMap_filled_of_no_break fun _ => Text.no_break_of_mem_pieces, Text.filter_pieces]

theorem flatMap_filled_flatten (default : LineEnd) (edit? : Nat → Option Edit)
    (lines : List PhysicalLine) :
    (lines.mapIdx fun i line => inPlace default (edit? i) line).flatten.flatMap
        (fun line => filled line.text) =
      ((lines.map fun line => String.ofList line.text).mapIdx fun i line =>
        textInPlace (edit? i) line).flatMap fun text => filled text.toList := by
  induction lines generalizing edit? with
  | nil => rfl
  | cons line rest ih =>
    rw [List.mapIdx_cons, List.flatten_cons, List.flatMap_append, flatMap_filled_inPlace,
      ih fun i => edit? (i + 1), List.map_cons, List.mapIdx_cons, List.flatMap_cons]

/-- The lines of an edited text that are not empty are those of the texts in place of the lines. -/
theorem filled_applyEdits (code : String) (edits : List Edit) :
    filled (applyEdits code edits).toList =
      (textsInPlace edits (Text.lines code)).flatMap fun text => filled text.toList := by
  have hopen : OnlyLastOpen (Text.physicalLines code.toList) :=
    Text.onlyLastOpen_physicalLinesFrom [] _
  unfold applyEdits textsInPlace
  dsimp only
  rw [foldl_bottomUp, String.toList_ofList,
    Text.filled_joinLines (onlyLastOpen_flatten (defaultBreak_ne_none _) hopen _),
    flatMap_filled_flatten _ fun i => lastFor? edits ((i : Int) + 1),
    Text.map_text_physicalLines]

end SourceAudit.Edit
