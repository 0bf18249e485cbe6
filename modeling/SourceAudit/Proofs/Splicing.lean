-- What a list of edits does to lines. Edits are spliced one after the other from the bottom up; in
-- the end each line has given way to the last edit of it, as if all were made at once.

import Mathlib.Data.List.Induction
import SourceAudit.Edit
import SourceAudit.Proofs.FilledLines
import SourceAudit.Proofs.SortedByKey

namespace SourceAudit.Edit

open SourceAudit.Text (LineEnd PhysicalLine)

/-! ## The edit that counts -/

/-- The last edit of a line, by its number. -/
def lastFor? (edits : List Edit) (line : Int) : Option Edit :=
  edits.reverse.find? (·.line = line)

theorem line_of_lastFor? {edits : List Edit} {line : Int} {edit : Edit}
    (h : lastFor? edits line = some edit) : edit.line = line := by
  simpa using List.find?_some h

theorem mem_of_lastFor? {edits : List Edit} {line : Int} {edit : Edit}
    (h : lastFor? edits line = some edit) : edit ∈ edits :=
  List.mem_reverse.1 (List.mem_of_find?_eq_some h)

theorem lastFor?_eq_none_iff {edits : List Edit} {line : Int} :
    lastFor? edits line = none ↔ ∀ edit ∈ edits, edit.line ≠ line := by
  simp [lastFor?]

theorem lastFor?_concat (edits : List Edit) (edit : Edit) (line : Int) :
    lastFor? (edits ++ [edit]) line =
      if edit.line = line then some edit else lastFor? edits line := by
  unfold lastFor?
  rw [List.reverse_concat, List.find?_cons]
  by_cases h : edit.line = line <;> simp [h]

theorem latest_concat (edits : List Edit) (edit : Edit) :
    latest (edits ++ [edit]) = (latest edits).filter (·.line ≠ edit.line) ++ [edit] := by
  unfold latest
  rw [List.foldl_append]
  rfl

/-- Of all edits, the last one of each line is kept. -/
theorem mem_latest {edits : List Edit} {edit : Edit} :
    edit ∈ latest edits ↔ lastFor? edits edit.line = some edit := by
  induction edits using List.reverseRecOn with
  | nil => simp [latest, lastFor?]
  | append_singleton edits last ih =>
    rw [latest_concat, lastFor?_concat, List.mem_append, List.mem_filter, List.mem_singleton, ih]
    by_cases h : last.line = edit.line
    · simp [h, eq_comm]
    · have hne : edit ≠ last := fun heq => h (heq ▸ rfl)
      simp [h, hne, Ne.symm h]

theorem latest_pairwise (edits : List Edit) :
    (latest edits).Pairwise fun a b => a.line ≠ b.line := by
  induction edits using List.reverseRecOn with
  | nil => exact .nil
  | append_singleton edits last ih =>
    rw [latest_concat, List.pairwise_append]
    refine ⟨ih.filter _, List.pairwise_singleton _ _, ?_⟩
    intro a ha b hb
    rw [List.mem_singleton.1 hb]
    simpa using (List.mem_filter.1 ha).2

/-- The edits that are made go strictly upwards. -/
theorem bottomUp_pairwise (edits : List Edit) :
    (bottomUp edits).Pairwise fun a b => b.line < a.line := by
  have hbyKey : ByKey (fun a b : Edit => decide (b.line ≤ a.line)) fun edit => -edit.line := by
    intro a b
    simp
  have hsorted := hbyKey.pairwise_mergeSort (latest edits)
  have hdistinct : (bottomUp edits).Pairwise fun a b => a.line ≠ b.line :=
    ((List.mergeSort_perm _ _).pairwise_iff fun h => Ne.symm h).2 (latest_pairwise edits)
  refine (hsorted.and hdistinct).imp ?_
  rintro a b ⟨hle, hne⟩
  omega

/-- Among the edits that are made, the one of a line is the last that was given for it. -/
theorem find?_bottomUp (edits : List Edit) (line : Int) :
    (bottomUp edits).find? (·.line = line) = lastFor? edits line := by
  have hmem : ∀ edit, edit ∈ bottomUp edits ↔ lastFor? edits edit.line = some edit := fun edit =>
    List.mem_mergeSort.trans mem_latest
  cases hfind : (bottomUp edits).find? (·.line = line) with
  | some edit =>
    obtain rfl : edit.line = line := by simpa using List.find?_some hfind
    exact ((hmem edit).1 (List.mem_of_find?_eq_some hfind)).symm
  | none =>
    cases hlast : lastFor? edits line with
    | none => rfl
    | some edit =>
      obtain rfl := line_of_lastFor? hlast
      simpa using List.find?_eq_none.1 hfind edit ((hmem edit).2 hlast)

/-! ## One splice -/

theorem replacementLines_length (default ending : LineEnd) (pieces : List (List Char)) :
    (replacementLines default ending pieces).length = pieces.length := by
  fun_induction replacementLines default ending pieces with
  | case1 => rfl
  | case2 last => rfl
  | case3 piece rest hrest ih => rw [List.length_cons, List.length_cons, ih]

/-- The lines that stand for a line after one edit of it. -/
def replaced (default : LineEnd) (line : PhysicalLine) (edit : Edit) : List PhysicalLine :=
  replacementLines default line.ending (Text.pieces edit.replacement.toList)

theorem replaced_length_pos (default : LineEnd) (line : PhysicalLine) (edit : Edit) :
    0 < (replaced default line edit).length := by
  unfold replaced
  rw [replacementLines_length]
  exact List.length_pos_iff.2 (Text.piecesFrom_ne_nil [] _)

variable {default : LineEnd} {edit : Edit}

theorem splice_at {front : List PhysicalLine} (h : edit.line = front.length + 1)
    (line : PhysicalLine) (back : List PhysicalLine) :
    splice default (front ++ line :: back) edit =
      front ++ replaced default line edit ++ back := by
  have hindex : edit.line - 1 = front.length := by omega
  unfold splice replaced
  dsimp only
  rw [hindex, if_neg (by omega), Int.toNat_natCast, List.getElem?_append_right (Nat.le_refl _)]
  simp

/-- An edit of a line that is not there does nothing. -/
theorem splice_outside {lines : List PhysicalLine} (h : edit.line < 1 ∨ lines.length < edit.line) :
    splice default lines edit = lines := by
  unfold splice
  dsimp only
  split
  · rfl
  · next hindex =>
    rw [List.getElem?_eq_none (by omega)]

/-- An edit is of a line that is not there, or of one with lines before and behind it. -/
theorem outside_or_at (edit : Edit) (lines : List PhysicalLine) :
    (edit.line < 1 ∨ lines.length < edit.line) ∨
      ∃ front line back, lines = front ++ line :: back ∧ edit.line = front.length + 1 := by
  by_cases h : edit.line < 1 ∨ lines.length < edit.line
  · exact Or.inl h
  · have hindex : (edit.line - 1).toNat < lines.length := by omega
    refine Or.inr ⟨lines.take (edit.line - 1).toNat, lines[(edit.line - 1).toNat],
      lines.drop ((edit.line - 1).toNat + 1), ?_, ?_⟩
    · rw [List.getElem_cons_drop, List.take_append_drop]
    · rw [List.length_take]
      omega

/-- An edit of one of the first lines leaves those behind them as they are. -/
theorem splice_append {front : List PhysicalLine} (h : edit.line ≤ front.length)
    (back : List PhysicalLine) :
    splice default (front ++ back) edit = splice default front edit ++ back := by
  rcases outside_or_at edit front with hout | ⟨first, line, rest, rfl, hline⟩
  · have hlow : edit.line < 1 := hout.resolve_right (by omega)
    rw [splice_outside (Or.inl hlow), splice_outside (Or.inl hlow)]
  · rw [splice_at hline, List.append_assoc, List.cons_append, splice_at hline, List.append_assoc,
      List.append_assoc, List.append_assoc]

theorem length_le_splice (default : LineEnd) (edit : Edit) (lines : List PhysicalLine) :
    lines.length ≤ (splice default lines edit).length := by
  rcases outside_or_at edit lines with hout | ⟨front, line, back, rfl, hline⟩
  · exact Nat.le_of_eq (by rw [splice_outside hout])
  · have := replaced_length_pos default line edit
    rw [splice_at hline]
    simp only [List.length_append, List.length_cons]
    omega

theorem foldl_splice_append {edits : List Edit} {front : List PhysicalLine}
    (h : ∀ edit ∈ edits, edit.line ≤ front.length) (back : List PhysicalLine) :
    edits.foldl (splice default) (front ++ back) =
      edits.foldl (splice default) front ++ back := by
  induction edits generalizing front with
  | nil => rfl
  | cons edit rest ih =>
    have hrest : ∀ other ∈ rest, other.line ≤ (splice default front edit).length := by
      intro other ho
      have hother := h other (List.mem_cons_of_mem _ ho)
      have hlength := length_le_splice default edit front
      omega
    rw [List.foldl_cons, List.foldl_cons, splice_append (h edit List.mem_cons_self), ih hrest]

/-! ## All splices -/

/-- The lines that stand for a line with a number, where there is an edit of it or none. -/
def inPlace (default : LineEnd) (edit? : Option Edit) (line : PhysicalLine) : List PhysicalLine :=
  match edit? with
  | some edit => replaced default line edit
  | none => [line]

theorem find?_eq_none_of_lt {edits : List Edit} {line : Int} (h : ∀ edit ∈ edits, edit.line < line) :
    edits.find? (·.line = line) = none := by
  rw [List.find?_eq_none]
  intro edit hedit heq
  have hlt := h edit hedit
  have heq : edit.line = line := by simpa using heq
  omega

theorem mapIdx_congr {α β : Type} {f g : Nat → α → β} {xs : List α}
    (h : ∀ i < xs.length, ∀ x, f i x = g i x) : xs.mapIdx f = xs.mapIdx g := by
  apply List.ext_getElem
  · simp
  · intro i hf hg
    rw [List.getElem_mapIdx, List.getElem_mapIdx, h i (by simpa using hf)]

theorem flatMap_flatten_mapIdx {α β γ : Type} (g : Nat → α → List β) (f : β → List γ)
    (xs : List α) :
    (xs.mapIdx g).flatten.flatMap f = (xs.mapIdx fun i x => (g i x).flatMap f).flatten := by
  induction xs generalizing g with
  | nil => rfl
  | cons x rest ih =>
    rw [List.mapIdx_cons, List.mapIdx_cons, List.flatten_cons, List.flatten_cons,
      List.flatMap_append, ih]

theorem flatten_inPlace_none (lines : List PhysicalLine) :
    (lines.mapIdx fun _ line => inPlace default none line).flatten = lines := by
  induction lines with
  | nil => rfl
  | cons line rest ih => rw [List.mapIdx_cons, List.flatten_cons, ih]; rfl

/-- Edits of distinct lines, made from the bottom up, put each line's own in its place. -/
theorem foldl_splice_eq {edits : List Edit} (h : edits.Pairwise fun a b => b.line < a.line)
    (lines : List PhysicalLine) :
    edits.foldl (splice default) lines =
      (lines.mapIdx fun i line =>
        inPlace default (edits.find? (·.line = (i : Int) + 1)) line).flatten := by
  induction edits generalizing lines with
  | nil => exact (flatten_inPlace_none lines).symm
  | cons edit rest ih =>
    obtain ⟨hbelow, hrest⟩ := List.pairwise_cons.1 h
    have hother : ∀ i : Nat, edit.line ≠ (i : Int) + 1 →
        (edit :: rest).find? (·.line = (i : Int) + 1) = rest.find? (·.line = (i : Int) + 1) :=
      fun i hi => List.find?_cons_of_neg (by simpa using hi)
    rw [List.foldl_cons]
    -- the first edit is of the lowest line, so the others are of lines in front of it
    rcases outside_or_at edit lines with hout | ⟨front, line, back, rfl, hline⟩
    · rw [splice_outside hout, ih hrest]
      congr 1
      apply mapIdx_congr
      intro i hi x
      rw [hother i (by omega)]
    · have hfront : ∀ other ∈ rest, other.line ≤ front.length := fun other ho => by
        have := hbelow other ho
        omega
      rw [splice_at hline, List.append_assoc, foldl_splice_append hfront, ih hrest,
        List.mapIdx_append, List.mapIdx_cons, List.flatten_append, List.flatten_cons]
      have hhere : (edit :: rest).find? (·.line = ((0 + front.length : Nat) : Int) + 1) = some edit :=
        List.find?_cons_of_pos (by simp [hline])
      have hback : ∀ i : Nat,
          (edit :: rest).find? (·.line = ((i + 1 + front.length : Nat) : Int) + 1) = none := by
        intro i
        apply find?_eq_none_of_lt
        rintro other (_ | ⟨_, ho⟩)
        · omega
        · have := hbelow other ho
          omega
      congr 2
      · apply mapIdx_congr
        intro i hi x
        rw [hother i (by omega)]
      · rw [hhere]
        rfl
      · simp only [hback]
        exact (flatten_inPlace_none back).symm

/-- All edits together put in each line's place what the last edit of it says. -/
theorem foldl_bottomUp (edits : List Edit) (lines : List PhysicalLine) :
    (bottomUp edits).foldl (splice default) lines =
      (lines.mapIdx fun i line =>
        inPlace default (lastFor? edits ((i : Int) + 1)) line).flatten := by
  rw [foldl_splice_eq (bottomUp_pairwise edits)]
  simp only [find?_bottomUp]

end SourceAudit.Edit
