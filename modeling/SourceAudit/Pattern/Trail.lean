-- What a matcher knows on its way through a text: where the groups began and ended, and where it
-- last stood still to try something. A way that fails leaves its trail behind, and what is tried
-- next goes on from there.

import SourceAudit.Pattern.Node

namespace SourceAudit.Pattern

/-- The trail of a matcher. Group `i` begins at mark `2 * i - 2` and ends at the mark behind that
one; marks that are not set are none. The cursor is where the matcher last stood still. -/
structure Trail where
  cursor : Nat
  marks : List (Option Nat) := []
  deriving DecidableEq, Repr

namespace Trail

/-- The same marks, at a place. -/
def pausedAt (trail : Trail) (position : Nat) : Trail :=
  { trail with cursor := position }

/-- Sets a mark. Marks on the way to it that have never been set are none. -/
def mark (trail : Trail) (index position : Nat) : Trail :=
  let marks := trail.marks ++ List.replicate (index + 1 - trail.marks.length) none
  { trail with marks := marks.set index (some position) }

/-- A group begins. -/
def openGroup (trail : Trail) (index position : Nat) : Trail :=
  trail.mark (2 * index - 2) position

/-- A group ends. -/
def closeGroup (trail : Trail) (index position : Nat) : Trail :=
  trail.mark (2 * index - 1) position

/-- The two ends of what a group matched. A group that was opened again behind the place where it
was last closed counts as not matched. -/
def captured? (trail : Trail) (index : Nat) : Option (Nat × Nat) :=
  match trail.marks[2 * index - 2]?, trail.marks[2 * index - 1]? with
  | some (some first), some (some last) => if first ≤ last then some (first, last) else none
  | _, _ => none

/-- The trail of a way that failed, with the marks that there were before. Outside of repeated
rounds only marks that were new are taken back, and one that was set again stays. -/
def restored (left before : Trail) (inRounds : Bool) : Trail :=
  { left with
    marks := if inRounds then before.marks else left.marks.take before.marks.length }

@[simp] theorem cursor_pausedAt (trail : Trail) (position : Nat) :
    (trail.pausedAt position).cursor = position :=
  rfl

@[simp] theorem marks_pausedAt (trail : Trail) (position : Nat) :
    (trail.pausedAt position).marks = trail.marks :=
  rfl

@[simp] theorem cursor_mark (trail : Trail) (index position : Nat) :
    (trail.mark index position).cursor = trail.cursor :=
  rfl

@[simp] theorem cursor_restored (left before : Trail) (inRounds : Bool) :
    (left.restored before inRounds).cursor = left.cursor :=
  rfl

end Trail

/-- How an attempt ends. A match ends at the cursor. -/
inductive Outcome where
  | failed (left : Trail)
  | matched (found : Trail)
  deriving DecidableEq, Repr

/-- A failure with its trail changed. -/
def Outcome.onFailure (outcome : Outcome) (change : Trail → Trail) : Outcome :=
  match outcome with
  | failed left => failed (change left)
  | matched found => matched found

/-- Tries something else where an attempt fails. -/
def Outcome.orElse (outcome : Outcome) (next : Trail → Outcome) : Outcome :=
  match outcome with
  | failed left => next left
  | matched found => matched found

@[simp] theorem Outcome.onFailure_eq_matched {outcome : Outcome} {change : Trail → Trail}
    {found : Trail} : outcome.onFailure change = matched found ↔ outcome = matched found := by
  cases outcome <;> simp [onFailure]

theorem Outcome.orElse_eq_matched {outcome : Outcome} {next : Trail → Outcome} {found : Trail} :
    outcome.orElse next = matched found ↔
      outcome = matched found ∨ ∃ left, outcome = failed left ∧ next left = matched found := by
  cases outcome <;> simp [orElse]

end SourceAudit.Pattern
