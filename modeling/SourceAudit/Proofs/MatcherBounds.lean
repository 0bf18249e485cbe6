-- The matcher stays inside the text. Wherever a run of a pattern ends, in a match or in a failure,
-- its cursor is not behind the last character, so no hit reaches beyond the text.

import SourceAudit.Pattern.Hits

namespace SourceAudit.Pattern

/-! ## Staying inside -/

/-- Where the matcher stands when an attempt is over. -/
def Outcome.cursor : Outcome → Nat
  | failed left => left.cursor
  | matched found => found.cursor

/-- What follows a match stays inside a text of the size, if it begins there. -/
def Continue.Within (size : Nat) (go : Continue) : Prop :=
  ∀ ⦃position : Nat⦄ ⦃trail : Trail⦄,
    position ≤ size → trail.cursor ≤ size → (go position trail).cursor ≤ size

/-- A step stays inside a text of the size, if it begins there and so does what follows it. -/
def Step.Within (size : Nat) (step : Step) : Prop :=
  ∀ ⦃position : Nat⦄ ⦃trail : Trail⦄ ⦃go : Continue⦄,
    position ≤ size → trail.cursor ≤ size → go.Within size →
      (step position trail go).cursor ≤ size

theorem finish_within (size : Nat) : Continue.Within size finish := by
  intro position trail hp _
  exact hp

theorem Outcome.cursor_onFailure {size : Nat} {outcome : Outcome} {change : Trail → Trail}
    (h : outcome.cursor ≤ size) (hc : ∀ trail, trail.cursor ≤ size → (change trail).cursor ≤ size) :
    (outcome.onFailure change).cursor ≤ size := by
  cases outcome with
  | failed left => exact hc left h
  | matched found => exact h

theorem Outcome.cursor_orElse {size : Nat} {outcome : Outcome} {next : Trail → Outcome}
    (h : outcome.cursor ≤ size) (hn : ∀ trail, trail.cursor ≤ size → (next trail).cursor ≤ size) :
    (outcome.orElse next).cursor ≤ size := by
  cases outcome with
  | failed left => exact hn left h
  | matched found => exact h

/-- A character that passes a test is inside the text, so its end is too. -/
theorem CharTest.lt_size_of_holdsAt {test : CharTest} {text : Array Char} {position : Nat}
    (h : test.holdsAt text position = true) : position < text.size := by
  unfold holdsAt at h
  cases hc : text[position]? with
  | none => simp [hc] at h
  | some c => exact (Array.getElem?_eq_some_iff.1 hc).1

/-! ## Stretches -/

theorem CharTest.runEnd_le (test : CharTest) (text : Array Char) {limit position : Nat}
    (hp : position ≤ text.size) : test.runEnd text limit position ≤ text.size := by
  induction limit generalizing position with
  | zero => exact hp
  | succ limit ih =>
    unfold runEnd
    split
    · next h => exact ih (lt_size_of_holdsAt h)
    · exact hp

theorem CharTest.cursor_counted (test : CharTest) (trail : Trail) {size first stop : Nat}
    (hf : first ≤ size) (hs : stop ≤ size) : (test.counted trail first stop).cursor ≤ size := by
  unfold counted
  rw [Trail.cursor_pausedAt]
  split
  · exact hs
  · exact hf

theorem attempt_within {size : Nat} {allowed : Nat → Bool} {restore : Trail → Trail}
    {go : Continue} {position : Nat} {trail : Trail} (hgo : go.Within size)
    (hr : ∀ left, left.cursor ≤ size → (restore left).cursor ≤ size)
    (hp : position ≤ size) (ht : trail.cursor ≤ size) :
    (attempt allowed restore go position trail).cursor ≤ size := by
  unfold attempt
  split
  · exact Outcome.cursor_onFailure (hgo hp hp) hr
  · exact ht

theorem shrinking_within {size : Nat} {allowed : Nat → Bool} {restore : Trail → Trail}
    {go : Continue} {first extra : Nat} {trail : Trail} (hgo : go.Within size)
    (hr : ∀ left, left.cursor ≤ size → (restore left).cursor ≤ size)
    (hp : first + extra ≤ size) (ht : trail.cursor ≤ size) :
    (shrinking allowed restore go first extra trail).cursor ≤ size := by
  induction extra generalizing trail with
  | zero => exact attempt_within hgo hr hp ht
  | succ extra ih =>
    unfold shrinking
    apply Outcome.cursor_orElse (attempt_within hgo hr hp ht)
    intro left hl
    exact ih (by omega) hl

theorem growing_within {text : Array Char} {test : CharTest} {restore : Trail → Trail}
    {go : Continue} {extra position : Nat} {trail : Trail} (hgo : go.Within text.size)
    (hp : position ≤ text.size) :
    (growing test text restore go extra position trail).cursor ≤ text.size := by
  induction extra generalizing position trail with
  | zero =>
    unfold growing
    apply Outcome.cursor_orElse (hgo hp hp)
    intro left _
    dsimp only
    split
    · next h =>
      have hlt := CharTest.lt_size_of_holdsAt h
      split
      · exact hlt
      · exact hp
    · exact hp
  | succ extra ih =>
    unfold growing
    apply Outcome.cursor_orElse (hgo hp hp)
    intro left _
    dsimp only
    split
    · next h => exact ih (CharTest.lt_size_of_holdsAt h)
    · exact hp

theorem stretchOf_within (text : Array Char) (inRounds : Bool) (greed : Greed) (least : Nat)
    (more : Option Nat) (test : CharTest) (next : Option Nat) :
    Step.Within text.size (stretchOf text inRounds greed least more test next) := by
  intro position trail go hp ht hgo
  have hstop : ∀ limit, test.runEnd text limit position ≤ text.size := fun limit =>
    test.runEnd_le text hp
  unfold stretchOf
  dsimp only
  split
  · exact ht
  · cases greed with
    | lazy =>
      dsimp only
      split
      · split
        · exact hp
        · exact test.cursor_counted trail hp (hstop _)
      · exact growing_within hgo (hstop _)
    | greedy =>
      have hend := hstop (charsLeft text (more.map (least + ·)) position)
      have hcount := test.cursor_counted trail hp hend
      dsimp only
      split
      · exact hcount
      · exact shrinking_within hgo (fun left hl => hl) (by omega) hcount
    | possessive =>
      have hend := hstop (charsLeft text (more.map (least + ·)) position)
      have hcount := test.cursor_counted trail hp hend
      dsimp only
      split
      · exact hcount
      · exact hgo hend hcount

/-! ## Rounds -/

section Rounds

variable {size : Nat} {step : Step} {go : Continue}

theorem rounds_within (hs : step.Within size) (hgo : go.Within size) (count : Nat) :
    Continue.Within size (rounds step go count) := by
  induction count with
  | zero => exact hgo
  | succ count ih =>
    intro position trail hp _
    exact Outcome.cursor_onFailure (hs hp hp ih) fun _ _ => hp

theorem manyRounds_within (hs : step.Within size) (hgo : go.Within size) (count : Nat)
    (last : Option Nat) : Continue.Within size (manyRounds step go count last) := by
  induction count generalizing last with
  | zero =>
    intro position trail hp _
    exact Outcome.cursor_onFailure (hgo hp hp) fun _ _ => hp
  | succ count ih =>
    intro position trail hp _
    have hleave : ((go position (trail.pausedAt position)).onFailure
        (·.pausedAt position)).cursor ≤ size :=
      Outcome.cursor_onFailure (hgo hp hp) fun _ _ => hp
    unfold manyRounds
    dsimp only
    split
    · exact hleave
    · exact Outcome.cursor_orElse (hs hp hp (ih (some position))) fun _ _ => hleave

theorem fewRounds_within (hs : step.Within size) (hgo : go.Within size) (inRounds : Bool)
    (count : Nat) (last : Option Nat) :
    Continue.Within size (fewRounds step go inRounds count last) := by
  induction count generalizing last with
  | zero =>
    intro position trail hp _
    unfold fewRounds
    exact Outcome.cursor_orElse (hgo hp hp) fun _ _ => hp
  | succ count ih =>
    intro position trail hp _
    unfold fewRounds
    apply Outcome.cursor_orElse (hgo hp hp)
    intro left _
    dsimp only
    split
    · exact hp
    · exact Outcome.cursor_onFailure (hs hp hp (ih (some position))) fun _ _ => hp

theorem settledRounds_within (hs : step.Within size) (count : Nat) {trail : Trail}
    (ht : trail.cursor ≤ size) : (settledRounds step count trail).cursor ≤ size := by
  induction count generalizing trail with
  | zero => exact ht
  | succ count ih =>
    have hround := hs ht ht (finish_within size)
    unfold settledRounds
    split
    · next left hl => rw [hl] at hround; exact hround
    · next found hf => rw [hf] at hround; exact ih hround

theorem drain_within (hs : step.Within size) (count : Nat) {trail : Trail}
    (ht : trail.cursor ≤ size) : (drain step count trail).cursor ≤ size := by
  induction count generalizing trail with
  | zero => exact ht
  | succ count ih =>
    have hround := hs ht ht (finish_within size)
    unfold drain
    split
    · next left hl => rw [hl] at hround; exact hround
    · next found hf =>
      rw [hf] at hround
      split
      · exact hround
      · exact ih hround

end Rounds

theorem repeatedOf_within {step : Step} (text : Array Char) (hs : step.Within text.size)
    (inRounds : Bool) (greed : Greed) (least : Nat) (more : Option Nat) :
    Step.Within text.size (repeatedOf text inRounds greed least more step) := by
  intro position trail go hp ht hgo
  unfold repeatedOf
  cases greed with
  | greedy =>
    apply rounds_within hs _ least hp ht
    intro position trail hp ht
    exact manyRounds_within hs hgo _ none hp ht
  | lazy =>
    apply rounds_within hs _ least hp ht
    intro position trail hp ht
    exact fewRounds_within hs hgo inRounds _ none hp ht
  | possessive =>
    have hsettled : (settledRounds step least (trail.pausedAt position)).cursor ≤ text.size :=
      settledRounds_within hs least hp
    dsimp only
    split
    · exact hp
    · next found hf =>
      rw [hf] at hsettled
      have hdone := drain_within hs (roundsLeft text more found.cursor) hsettled
      exact hgo hdone hdone

/-! ## Whole patterns -/

theorem repeatsAt_le {text : Array Char} {rule : CaseRule} {first position count : Nat}
    (hp : position ≤ text.size) (h : repeatsAt text rule first position count = true) :
    position + count ≤ text.size := by
  induction count generalizing first position with
  | zero => exact hp
  | succ count ih =>
    unfold repeatsAt at h
    split at h
    · next a b _ hb =>
      have hlt := (Array.getElem?_eq_some_iff.1 hb).1
      have hrest : position + 1 + count ≤ text.size := ih hlt (Bool.and_eq_true_iff.1 h).2
      omega
    · cases h

/-- A pattern that begins inside the text stays there, whatever it is. -/
theorem Node.run_within (text : Array Char) (node : Node) (inRounds : Bool) :
    Step.Within text.size (node.run text inRounds) := by
  induction node generalizing inRounds with
  | empty =>
    intro position trail go hp ht hgo
    exact hgo hp ht
  | never =>
    intro position trail go _ ht _
    exact ht
  | char test =>
    intro position trail go hp ht hgo
    unfold run
    split
    · next h => exact hgo (CharTest.lt_size_of_holdsAt h) ht
    · exact ht
  | anchor a =>
    intro position trail go hp ht hgo
    unfold run
    split
    · exact hgo hp ht
    · exact ht
  | seq a b iha ihb =>
    intro position trail go hp ht hgo
    apply iha inRounds hp ht
    intro position trail hp ht
    exact ihb inRounds hp ht hgo
  | either opening a b iha ihb =>
    intro position trail go hp ht hgo
    unfold run
    split
    · apply Outcome.cursor_orElse (iha inRounds hp hp hgo)
      intro left hl
      exact ihb inRounds hp hl hgo
    · exact ihb inRounds hp ht hgo
  | stretch greed least more test next =>
    exact stretchOf_within text inRounds greed least more test next
  | repeated greed least more body ih =>
    exact repeatedOf_within text (ih _) inRounds greed least more
  | group index body ih =>
    intro position trail go hp ht hgo
    have hclose : Continue.Within text.size fun position trail =>
        go position (trail.closeGroup index position) := fun _ _ hp ht => hgo hp ht
    have hopen : (trail.openGroup index position).cursor ≤ text.size := ht
    exact ih inRounds hp hopen hclose
  | sameAs index rule =>
    intro position trail go hp ht hgo
    unfold run
    split
    · split
      · next h => exact hgo (repeatsAt_le hp h) ht
      · exact ht
    · exact ht
  | look back negated body ih =>
    intro position trail go hp ht hgo
    have hback : position - back ≤ text.size := by omega
    have hbody : (body.run text inRounds (position - back) (trail.pausedAt (position - back))
        finish).cursor ≤ text.size := ih inRounds hback hback (finish_within text.size)
    unfold run
    split
    · split
      · exact hgo hp ht
      · exact ht
    · split
      · next hf => rw [hf] at hbody; exact hgo hp hbody
      · next hf => rw [hf] at hbody; exact hbody
      · next hf => rw [hf] at hbody; exact hbody
      · next hf => rw [hf] at hbody; exact hgo hp hbody
  | atomic body ih =>
    intro position trail go hp ht hgo
    have hbody : (body.run text inRounds position (trail.pausedAt position) finish).cursor ≤
        text.size := ih inRounds hp hp (finish_within text.size)
    unfold run
    split
    · next hf => rw [hf] at hbody; exact hgo hbody hbody
    · exact hp
  | ifGroup index yes no ihy ihn =>
    intro position trail go hp ht hgo
    unfold run
    split
    · exact ihy inRounds hp ht hgo
    · exact ihn inRounds hp ht hgo

end SourceAudit.Pattern
