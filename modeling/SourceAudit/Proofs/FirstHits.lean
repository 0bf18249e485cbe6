-- Where the first hit of a pattern begins. A search passes over places where, from what the
-- pattern tells of itself, no match can begin. As long as that is true of all it spans, the first
-- hit begins at the first place where the pattern spans anything; and there is no hit only if there
-- is no such place.

import SourceAudit.Proofs.CompleteSearch
import SourceAudit.Proofs.Sites
import Mathlib.Order.Bounds.Basic

namespace SourceAudit

namespace Pattern

variable {p : Pattern} {text : Array Char}

/-- A match of the pattern begins at a position of a text. -/
def BeginsAt (p : Pattern) (text : Array Char) (position : Nat) : Prop :=
  position ≤ text.size ∧ ∃ stop, p.root.Spans text position stop

/-- Every way through the pattern may be tried, and what it tells of its matches is true: none of
them begins with another character, and none is shorter. -/
structure Searchable (p : Pattern) : Prop where
  regular : p.root.isRegular = true
  mayBegin_of_spans : ∀ {text : Array Char} {start stop : Nat},
    p.root.Spans text start stop → p.mayBegin text start = true
  least_le_of_spans : ∀ {text : Array Char} {start stop : Nat},
    p.root.Spans text start stop → start + p.least ≤ stop

/-! ## Matches at one place -/

theorem Searchable.spans_of_endOfMatch? (hp : p.Searchable) {start stop : Nat} {moving : Bool}
    (h : p.endOfMatch? text start moving = some stop) : p.root.Spans text start stop := by
  unfold endOfMatch? at h
  dsimp only at h
  split at h
  · next found hrun =>
    obtain ⟨last, trail, hspans, hend⟩ := (Node.run_searches text hp.regular false).sound hrun
    split at hend
    · cases hend
    · cases hend
      cases h
      exact hspans
  · cases h

theorem Searchable.exists_endOfMatch? (hp : p.Searchable) {start stop : Nat}
    (h : p.root.Spans text start stop) : ∃ last, p.endOfMatch? text start false = some last := by
  have hfound := (Node.run_searches text hp.regular false).complete h (finish_accepts stop)
  obtain ⟨found, hrun⟩ := hfound { cursor := start }
  refine ⟨found.cursor, ?_⟩
  unfold endOfMatch?
  simp only [Bool.false_and, Bool.false_eq_true, if_false]
  rw [hrun]

/-! ## The first hit -/

theorem Searchable.spans_of_firstHit? (hp : p.Searchable) {places start : Nat} {moving : Bool}
    {hit : Hit} (h : p.firstHit? text places start moving = some hit) :
    p.root.Spans text hit.start hit.stop := by
  induction places generalizing start moving with
  | zero => simp [firstHit?] at h
  | succ places ih =>
    unfold firstHit? at h
    split at h
    · next hend =>
      simp only [Option.some.injEq] at h
      subst h
      split at hend
      · exact hp.spans_of_endOfMatch? hend
      · cases hend
    · exact ih h

/-- A search does not pass over a place where a match begins. -/
theorem Searchable.exists_firstHit?_le (hp : p.Searchable) {places start position stop : Nat}
    (hstart : start ≤ position) (hplaces : position < start + places)
    (h : p.root.Spans text position stop) :
    ∃ hit, p.firstHit? text places start false = some hit ∧ hit.start ≤ position := by
  induction places generalizing start with
  | zero => omega
  | succ places ih =>
    unfold firstHit?
    split
    · exact ⟨_, rfl, hstart⟩
    · next hnone =>
      rcases Nat.eq_or_lt_of_le hstart with rfl | hlt
      · obtain ⟨last, hlast⟩ := hp.exists_endOfMatch? h
        rw [if_pos (hp.mayBegin_of_spans h), hlast] at hnone
        cases hnone
      · exact ih hlt (by omega)

/-- Wherever a match begins, the search comes there. -/
theorem Searchable.lt_placesFrom (hp : p.Searchable) {position : Nat}
    (h : p.BeginsAt text position) : position < p.placesFrom text 0 := by
  obtain ⟨hposition, stop, hspans⟩ := h
  have hleast := hp.least_le_of_spans hspans
  have hstop := (Node.forward_spans text p.root hspans).2
  have hbegin := hp.mayBegin_of_spans hspans
  unfold placesFrom
  rw [if_neg (by omega)]
  unfold mayBegin at hbegin
  cases hopening : p.opening with
  | none => simp; omega
  | some test =>
    rw [hopening] at hbegin
    have := CharTest.lt_size_of_holdsAt hbegin
    simpa using this

theorem head?_hits (p : Pattern) (text : Array Char) :
    (p.hits text).head? = p.firstHit? text (p.placesFrom text 0) 0 false := by
  unfold hits
  rw [hitsFrom]
  split
  · next h => rw [h]; rfl
  · next h => rw [h]; rfl

/-- A pattern of which a match begins somewhere has a hit there or before. -/
theorem Searchable.exists_head?_hits_le (hp : p.Searchable) {position : Nat}
    (h : p.BeginsAt text position) :
    ∃ hit, (p.hits text).head? = some hit ∧ hit.start ≤ position := by
  have hplaces := hp.lt_placesFrom h
  obtain ⟨-, stop, hspans⟩ := h
  rw [head?_hits]
  exact hp.exists_firstHit?_le (Nat.zero_le _) (by omega) hspans

/-- The first hit begins at the first place where a match does. -/
theorem Searchable.isLeast_of_head?_hits (hp : p.Searchable) {hit : Hit}
    (h : (p.hits text).head? = some hit) :
    IsLeast {position | p.BeginsAt text position} hit.start := by
  have hinside := (mem_hitsFrom_le (List.mem_of_mem_head? h)).1
  have hfirst := h
  rw [head?_hits] at hfirst
  refine ⟨⟨hinside, _, hp.spans_of_firstHit? hfirst⟩, fun position hposition => ?_⟩
  obtain ⟨other, hother, hle⟩ := hp.exists_head?_hits_le hposition
  rw [h, Option.some.injEq] at hother
  exact hother ▸ hle

end Pattern

/-! ## The first hit of a rule -/

section Rule

variable {rule : Rule} {line : String}

/-- Where a pattern matches nothing without a character, no hit is left out. -/
theorem Rule.head?_hitsIn (hp : rule.pattern.Searchable) (hleast : 0 < rule.pattern.least) :
    (rule.hitsIn line).head? = (rule.pattern.hits line.toList.toArray).head? := by
  unfold hitsIn
  cases hhits : rule.pattern.hits line.toList.toArray with
  | nil => rfl
  | cons hit rest =>
    have hfirst : rule.pattern.firstHit? line.toList.toArray
        (rule.pattern.placesFrom line.toList.toArray 0) 0 false = some hit := by
      rw [← Pattern.head?_hits, hhits]
      rfl
    have := hp.least_le_of_spans (hp.spans_of_firstHit? hfirst)
    rw [List.filter_cons_of_pos (by simp; omega)]
    rfl

end Rule

end SourceAudit
