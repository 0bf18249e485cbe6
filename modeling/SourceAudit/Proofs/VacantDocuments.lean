-- Documents that say nothing. A text of empty lines, spaces and comments has no tokens, however
-- long it is, and it is read like an empty one.

import Mathlib.Data.List.Basic
import SourceAudit.Document.FromFile
import SourceAudit.Proofs.Utf8ReadBack

namespace SourceAudit

namespace Document.Yaml

/-! ## Vacant lines -/

/-- A line says nothing: it has spaces, and behind them a comment at most. -/
def isVacant (line : List Char) : Bool :=
  match line.dropWhile (· == ' ') with
  | [] => true
  | c :: comment => c == '#' && !comment.any endsLine

/-- A text of such lines alone, with characters that a document may contain. -/
def IsVacantText (text : List Char) : Prop :=
  text.all isAllowed = true ∧ ∀ line ∈ Text.pieces text, isVacant line = true

/-! ## What a cursor leaves behind -/

namespace Cursor

variable {c : Cursor} {line rest : List Char}

theorem rest_next (c : Cursor) : c.next.rest = c.rest.tail := by
  unfold next
  split
  · next h => rw [h, List.tail_nil]
  · next h =>
    rw [h, List.tail_cons]
    split
    · rfl
    · split <;> rfl

theorem rest_forward (c : Cursor) (n : Nat) : (c.forward n).rest = c.rest.drop n := by
  induction n generalizing c with
  | zero => rfl
  | succ n ih => rw [forward, ih, rest_next, List.drop_tail]

theorem rest_skipWhile (c : Cursor) (p : Char → Bool) :
    (c.skipWhile p).rest = c.rest.dropWhile p := by
  have hparts : c.rest.takeWhile p ++ c.rest.dropWhile p = c.rest :=
    List.takeWhile_append_dropWhile
  calc (c.skipWhile p).rest = c.rest.drop (c.rest.takeWhile p).length := rest_forward c _
    _ = (c.rest.takeWhile p ++ c.rest.dropWhile p).drop (c.rest.takeWhile p).length := by
      rw [hparts]
    _ = c.rest.dropWhile p := List.drop_left

/-- Behind a vacant line stands the end of the line. -/
theorem rest_skipComment_of_isVacant (hline : isVacant line = true)
    (hrest : ∀ x ∈ rest.head?, x = '\n') (hc : c.rest = line ++ rest) :
    c.skipSpaces.skipComment.rest = rest := by
  have hstay : ∀ p : Char → Bool, p '\n' = false → rest.dropWhile p = rest := by
    intro p hp
    cases rest with
    | nil => rfl
    | cons x rest => rw [List.dropWhile_cons_of_neg (by simp [hrest x rfl, hp])]
  have hspaces : c.skipSpaces.rest = (line ++ rest).dropWhile (· == ' ') := by
    rw [skipSpaces, rest_skipWhile, hc]
  rw [List.dropWhile_append] at hspaces
  unfold isVacant at hline
  unfold skipComment
  split at hline
  · next hblank =>
    rw [hblank, List.isEmpty_nil, if_pos rfl, hstay _ rfl] at hspaces
    have hpeek : c.skipSpaces.peek ≠ '#' := by
      rw [peek, hspaces]
      cases rest with
      | nil => decide
      | cons x rest => rw [List.headD_cons, hrest x rfl]; decide
    rw [if_neg hpeek, hspaces]
  · next x comment hcomment =>
    obtain ⟨hx, hopen⟩ := Bool.and_eq_true_iff.1 hline
    obtain rfl := eq_of_beq hx
    rw [hcomment] at hspaces
    have hpeek : c.skipSpaces.peek = '#' := by rw [peek, hspaces]; rfl
    have hmark : endsLine '#' = false := rfl
    have hbehind : ∀ d ∈ '#' :: comment, (!endsLine d) = true := by
      simpa [hmark] using hopen
    rw [if_pos hpeek, rest_skipWhile, hspaces]
    simp only [List.isEmpty_cons, Bool.false_eq_true, if_false]
    rw [List.dropWhile_append_of_pos hbehind, hstay _ rfl]

end Cursor

/-! ## Vacant texts -/

namespace Lexer

variable {l : Lexer} {fuel : Nat}

theorem skipToToken_succ (l : Lexer) (fuel : Nat) : l.skipToToken (fuel + 1) =
    match l.cursor.skipSpaces.skipComment.lineBreak? with
    | some (_, c) =>
      skipToToken { l with cursor := c, keyMayBegin := l.keyMayBegin || !l.inFlow } fuel
    | none => { l with cursor := l.cursor.skipSpaces.skipComment } := by
  rfl

/-- On the way to the next token nothing changes but where the lexer stands, and whether a key may
begin there. -/
theorem exists_skipToToken_eq (l : Lexer) (fuel : Nat) :
    ∃ cursor keyMayBegin, l.skipToToken fuel = { l with cursor, keyMayBegin } := by
  induction fuel generalizing l with
  | zero => exact ⟨_, _, rfl⟩
  | succ fuel ih =>
    rw [skipToToken_succ]
    split
    · obtain ⟨cursor, keyMayBegin, h⟩ := ih _
      exact ⟨cursor, keyMayBegin, h⟩
    · exact ⟨_, _, rfl⟩

theorem rest_skipToToken_of_last {line : List Char} (hline : isVacant line = true)
    (hrest : l.cursor.rest = line) : (l.skipToToken (fuel + 1)).cursor.rest = [] := by
  have hbehind : l.cursor.skipSpaces.skipComment.rest = [] :=
    Cursor.rest_skipComment_of_isVacant hline nofun (hrest.trans (List.append_nil line).symm)
  have hbreak : l.cursor.skipSpaces.skipComment.lineBreak? = none := by
    unfold Cursor.lineBreak? Cursor.peek
    rw [hbehind]
    rfl
  rw [skipToToken_succ, hbreak]
  exact hbehind

/-- A vacant line is skipped together with its line feed. -/
theorem exists_skipToToken_of_line (fuel : Nat) {line rest : List Char}
    (hline : isVacant line = true) (hrest : l.cursor.rest = line ++ '\n' :: rest) :
    ∃ next : Lexer, next.cursor.rest = rest ∧
      l.skipToToken (fuel + 1) = next.skipToToken fuel := by
  have hbehind := Cursor.rest_skipComment_of_isVacant hline (by simp) hrest
  have hbreak : l.cursor.skipSpaces.skipComment.lineBreak? =
      some ('\n', l.cursor.skipSpaces.skipComment.next) := by
    unfold Cursor.lineBreak? Cursor.peek
    rw [hbehind]
    rfl
  refine ⟨{ l with
    cursor := l.cursor.skipSpaces.skipComment.next
    keyMayBegin := l.keyMayBegin || !l.inFlow }, ?_, ?_⟩
  · rw [Cursor.rest_next, hbehind, List.tail_cons]
  · rw [skipToToken_succ, hbreak]

/-- There is no token in vacant lines. -/
theorem rest_skipToToken_of_isVacant {line : List Char} {others : List (List Char)}
    (hlines : ∀ vacant ∈ line :: others, isVacant vacant = true)
    (hrest : l.cursor.rest = ['\n'].intercalate (line :: others))
    (hfuel : l.cursor.rest.length < fuel) : (l.skipToToken fuel).cursor.rest = [] := by
  induction others generalizing l line fuel with
  | nil =>
    obtain ⟨fuel, rfl⟩ := Nat.exists_eq_succ_of_ne_zero (Nat.ne_zero_of_lt hfuel)
    exact rest_skipToToken_of_last (hlines line List.mem_cons_self) (by simpa using hrest)
  | cons second others ih =>
    obtain ⟨hline, hothers⟩ := List.forall_mem_cons.1 hlines
    obtain ⟨fuel, rfl⟩ := Nat.exists_eq_succ_of_ne_zero (Nat.ne_zero_of_lt hfuel)
    rw [List.intercalate_cons_cons, List.append_assoc, List.singleton_append] at hrest
    obtain ⟨next, hnext, heq⟩ := exists_skipToToken_of_line fuel hline hrest
    rw [heq]
    apply ih hothers hnext
    rw [hrest, List.length_append, List.length_cons] at hfuel
    rw [hnext]
    omega

-- Like `skipToToken_succ` by definition: unfolding the whole function would split all its cases.
theorem readAll_succ (l : Lexer) (fuel : Nat) : l.readAll (fuel + 1) =
    match l.settle with
    | .error fault => l.stop (some fault)
    | .ok l =>
      if l.cursor.atEnd then
        match l.finish with
        | .error fault => l.stop (some fault)
        | .ok l => l.stop none
      else
        match l.readToken with
        | .error fault => l.abandon fault
        | .ok l => l.readAll fuel := by
  rfl

/-- A lexer that comes to the end of the text stops there. -/
theorem readAll_of_end {next : Lexer} (h : l.settle = .ok next) (hend : next.cursor.rest = [])
    (hfinish : next.finish = .ok next) : l.readAll (fuel + 1) = next.stop none := by
  have hatEnd : next.cursor.atEnd = true := by rw [Cursor.atEnd, hend, List.isEmpty_nil]
  rw [readAll_succ, h]
  dsimp only
  rw [if_pos hatEnd, hfinish]

end Lexer

section Texts

variable {line : List Char} {others : List (List Char)}
  (hlines : ∀ vacant ∈ line :: others, isVacant vacant = true)
include hlines

theorem tokens_of_isVacant : tokens (['\n'].intercalate (line :: others)) = ⟨[], none⟩ := by
  obtain ⟨cursor, keyMayBegin, h⟩ := Lexer.exists_skipToToken_eq
    { cursor := { rest := ['\n'].intercalate (line :: others) } }
    ((['\n'].intercalate (line :: others)).length + 1)
  have hend := Lexer.rest_skipToToken_of_isVacant
    (l := { cursor := { rest := ['\n'].intercalate (line :: others) } }) hlines rfl
    (Nat.lt_succ_self _)
  rw [h] at hend
  have hsettle : Lexer.settle { cursor := { rest := ['\n'].intercalate (line :: others) } } =
      .ok { cursor, keyMayBegin } := by
    unfold Lexer.settle
    rw [h]
    rfl
  exact Lexer.readAll_of_end hsettle hend rfl

/-- A vacant line does not begin with a byte order mark. -/
theorem dropOrderMark_of_isVacant : dropOrderMark (['\n'].intercalate (line :: others)) =
    ['\n'].intercalate (line :: others) := by
  unfold dropOrderMark
  split
  · next rest h =>
    have hline := hlines line List.mem_cons_self
    cases line with
    | nil => cases others <;> simp [List.intercalate] at h
    | cons x line =>
      have hx : x = '\uFEFF' := by
        cases others <;> simp [List.intercalate] at h <;> exact h.1
      subst hx
      cases hline
  · rfl

end Texts

/-- A vacant text is read like an empty one. -/
theorem read_eq_null {text : List Char} (h : IsVacantText text) : read text = .ok .null := by
  obtain ⟨hallowed, hlines⟩ := h
  unfold read unifyLineEnds
  rw [hallowed]
  cases hpieces : Text.pieces text with
  | nil => rfl
  | cons line others =>
    rw [hpieces] at hlines
    rw [dropOrderMark_of_isVacant hlines, tokens_of_isVacant hlines]
    rfl

end Document.Yaml

/-- The bytes of a vacant text hold nothing. -/
theorem Document.ofBytes_eq_null {text : String} (h : Document.Yaml.IsVacantText text.toList) :
    Document.ofBytes (Text.utf8 text.toList) = .ok .null := by
  rw [Document.ofBytes, Text.readUtf8_utf8]
  dsimp only
  rw [Document.Yaml.read_eq_null h]

end SourceAudit
