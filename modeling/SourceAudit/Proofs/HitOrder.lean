-- The hits of a pattern in a text: they lie inside it, and they come from left to right without
-- overlap. This holds of every pattern, since the search goes on where the last hit ended.

import SourceAudit.Proofs.MatcherBounds

namespace SourceAudit.Pattern

/-! ## Hits lie inside the text -/

theorem endOfMatch?_le {p : Pattern} {text : Array Char} {start stop : Nat} {moving : Bool}
    (hs : start ≤ text.size) (h : p.endOfMatch? text start moving = some stop) :
    stop ≤ text.size := by
  have hrun : ∀ ending : Continue, ending.Within text.size →
      (p.root.run text false start { cursor := start } ending).cursor ≤ text.size :=
    fun ending he => Node.run_within text p.root false hs hs he
  unfold endOfMatch? at h
  dsimp only at h
  split at h
  · next found hfound =>
    cases h
    have hbound := hrun (fun position trail =>
      if (moving && decide (position ≤ start)) = true then .failed trail
      else finish position trail) (by
        intro position trail hp ht
        dsimp only
        split
        · exact ht
        · exact hp)
    rw [hfound] at hbound
    exact hbound
  · cases h

theorem firstHit?_le {p : Pattern} {text : Array Char} {places start : Nat} {moving : Bool}
    {hit : Hit} (hs : start + places ≤ text.size + 1)
    (h : p.firstHit? text places start moving = some hit) : hit.stop ≤ text.size := by
  induction places generalizing start moving with
  | zero => simp [firstHit?] at h
  | succ places ih =>
    unfold firstHit? at h
    split at h
    · next hend =>
      simp only [Option.some.injEq] at h
      subst h
      split at hend
      · exact endOfMatch?_le (by omega) hend
      · cases hend
    · exact ih (by omega) h

/-- The places of a search lie inside the text, the place behind it included. -/
theorem firstHit?_placesFrom_le {p : Pattern} {text : Array Char} {start : Nat} {moving : Bool}
    {hit : Hit} (h : p.firstHit? text (p.placesFrom text start) start moving = some hit) :
    hit.start ≤ text.size ∧ hit.stop ≤ text.size := by
  have hlt := start_lt_of_firstHit? h
  have hle := start_le_of_firstHit? h
  have hplaces := p.placesFrom_le text start
  exact ⟨by omega, firstHit?_le (by omega) h⟩

theorem mem_hitsFrom_le {p : Pattern} {text : Array Char} {start : Nat} {moving : Bool}
    {hit : Hit} (h : hit ∈ p.hitsFrom text start moving) :
    hit.start ≤ text.size ∧ hit.stop ≤ text.size := by
  fun_induction hitsFrom p text start moving with
  | case1 => cases h
  | case2 start moving first hfirst ih ih' =>
    rcases List.mem_cons.1 h with rfl | h
    · exact firstHit?_placesFrom_le hfirst
    · split at h
      · next hlt => exact ih hlt h
      · next hlt => exact ih' hlt h

/-- A text without characters has empty hits at most. -/
theorem hits_empty {p : Pattern} {hit : Hit} (h : hit ∈ p.hits #[]) : ¬ hit.start < hit.stop := by
  have hle := (mem_hitsFrom_le h).2
  simp only [List.size_toArray, List.length_nil] at hle
  omega

/-! ## Hits come from left to right -/

/-- The second hit begins behind the first: not before it, and where the first is not empty, not
before its end. -/
def Hit.Before (first second : Hit) : Prop :=
  first.start ≤ second.start ∧ (first.start < first.stop → first.stop ≤ second.start)

theorem start_le_of_mem_hitsFrom {p : Pattern} {text : Array Char} {start : Nat} {moving : Bool}
    {hit : Hit} (h : hit ∈ p.hitsFrom text start moving) : start ≤ hit.start := by
  fun_induction hitsFrom p text start moving with
  | case1 => cases h
  | case2 start moving first hfirst ih ih' =>
    have hle := start_le_of_firstHit? hfirst
    rcases List.mem_cons.1 h with rfl | h
    · exact hle
    · split at h
      · next hlt => have := ih hlt h; omega
      · next hlt => have := ih' hlt h; omega

theorem hitsFrom_pairwise (p : Pattern) (text : Array Char) (start : Nat) (moving : Bool) :
    (p.hitsFrom text start moving).Pairwise Hit.Before := by
  fun_induction hitsFrom p text start moving with
  | case1 => exact .nil
  | case2 start moving first hfirst ih ih' =>
    rw [List.pairwise_cons]
    split
    · next hlt =>
      refine ⟨fun hit hmem => ?_, ih hlt⟩
      have := start_le_of_mem_hitsFrom hmem
      exact ⟨by omega, fun _ => this⟩
    · next hlt =>
      refine ⟨fun hit hmem => ?_, ih' hlt⟩
      exact ⟨start_le_of_mem_hitsFrom hmem, fun h => absurd h hlt⟩

end SourceAudit.Pattern
