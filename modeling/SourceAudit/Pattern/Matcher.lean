-- Matching by trying. A pattern is run at a place of a text together with what is to follow;
-- the first way in which all of it succeeds is the answer. Choices are tried in the order in
-- which they are written, and a way that fails hands its trail on to the next one.

import SourceAudit.Pattern.Trail

namespace SourceAudit.Pattern

/-- A way to go on from a position with a trail. -/
abbrev Continue := Nat → Trail → Outcome

/-- A way to match something from a position with a trail, and then go on. -/
abbrev Step := Nat → Trail → Continue → Outcome

/-- Nothing follows: the match ends here. -/
def finish : Continue := fun position trail => .matched (trail.pausedAt position)

/-! ## Places -/

/-- A word begins or ends at the position. -/
def isWordEdge (text : Array Char) (asciiOnly : Bool) (position : Nat) : Bool :=
  let word (i : Nat) : Bool := (text[i]?).any (CharKind.word.holds asciiOnly)
  let before := position != 0 && word (position - 1)
  before != word position

/-- The condition holds at a position of the text. -/
def Anchor.holds (text : Array Char) (position : Nat) : Anchor → Bool
  | textStart => position == 0
  | lineStart => position == 0 || text[position - 1]? == some '\n'
  | textEnd => position == text.size
  | lastLineEnd =>
    position == text.size || (position + 1 == text.size && text[position]? == some '\n')
  | lineEnd => position == text.size || text[position]? == some '\n'
  | wordEdge asciiOnly => isWordEdge text asciiOnly position
  | noWordEdge asciiOnly => text.size != 0 && !isWordEdge text asciiOnly position

/-- The `count` characters from `first` on stand at `position` again. -/
def repeatsAt (text : Array Char) (rule : CaseRule) (first position : Nat) : (count : Nat) → Bool
  | 0 => true
  | count + 1 =>
    match text[first]?, text[position]? with
    | some a, some b =>
      rule.lower a.toNat == rule.lower b.toNat &&
        repeatsAt text rule (first + 1) (position + 1) count
    | _, _ => false

/-- The character at a position passes a test. -/
def CharTest.holdsAt (test : CharTest) (text : Array Char) (position : Nat) : Bool :=
  (text[position]?).any (test.accepts ·)

/-- The point stands at a position. -/
def standsAt (text : Array Char) (position n : Nat) : Bool :=
  (text[position]?).any (·.toNat == n)

/-! ## Stretches of characters -/

/-- Where up to `limit` characters end that pass a test. -/
def CharTest.runEnd (test : CharTest) (text : Array Char) : (limit position : Nat) → Nat
  | 0, position => position
  | limit + 1, position =>
    if test.holdsAt text position then test.runEnd text limit (position + 1) else position

/-- How many characters up to a limit are left. -/
def charsLeft (text : Array Char) (limit : Option Nat) (position : Nat) : Nat :=
  let room := text.size - position
  match limit with
  | some limit => min limit room
  | none => room

/-- Tries to go on from a position, if it is one of those allowed. -/
def attempt (allowed : Nat → Bool) (restore : Trail → Trail) (go : Continue) (position : Nat)
    (trail : Trail) : Outcome :=
  if allowed position then (go position (trail.pausedAt position)).onFailure restore
  else .failed trail

/-- Tries to go on from the position `extra` characters behind `first`, and from one character
less after each failure. -/
def shrinking (allowed : Nat → Bool) (restore : Trail → Trail) (go : Continue) (first : Nat) :
    (extra : Nat) → Trail → Outcome
  | 0, trail => attempt allowed restore go first trail
  | extra + 1, trail =>
    (attempt allowed restore go (first + extra + 1) trail).orElse
      (shrinking allowed restore go first extra)

/-- Tries to go on from a position, and after each failure from one character more, as long as
these pass a test. A test that lowers characters stands still behind each. -/
def growing (test : CharTest) (text : Array Char) (restore : Trail → Trail) (go : Continue) :
    (extra position : Nat) → Trail → Outcome
  | extra, position, trail =>
    (go position (trail.pausedAt position)).orElse fun left =>
      let left := (restore left).pausedAt position
      if test.holdsAt text position then
        let left := if test.isFolded then left.pausedAt (position + 1) else left
        match extra with
        | 0 => .failed left
        | extra + 1 => growing test text restore go extra (position + 1) left
      else .failed left

/-- The trail where characters have been counted up to a position. A test that lowers characters
stands still behind each. -/
def CharTest.counted (test : CharTest) (trail : Trail) (first stop : Nat) : Trail :=
  trail.pausedAt (if test.isFolded then stop else first)

/-- A repetition of a test. -/
def stretchOf (text : Array Char) (inRounds : Bool) (greed : Greed) (least : Nat)
    (more : Option Nat) (test : CharTest) (next : Option Nat) : Step := fun position trail go =>
  let restore (left : Trail) : Trail := left.restored trail inRounds
  if text.size - position < least then .failed trail
  else
    match greed with
    | .lazy =>
      let stop := test.runEnd text least position
      let trail' := if least = 0 then trail.pausedAt position else test.counted trail position stop
      if stop - position < least then .failed trail'
      else growing test text restore go (charsLeft text more stop) stop trail'
    | .greedy =>
      let stop := test.runEnd text (charsLeft text (more.map (least + ·)) position) position
      let trail' := test.counted trail position stop
      if stop - position < least then .failed trail'
      else
        let allowed (place : Nat) : Bool := next.all (standsAt text place)
        shrinking allowed restore go (position + least) (stop - position - least) trail'
    | .possessive =>
      let stop := test.runEnd text (charsLeft text (more.map (least + ·)) position) position
      let trail' := test.counted trail position stop
      if stop - position < least then .failed trail' else go stop trail'

/-! ## Rounds -/

/-- How many rounds are worth trying at a position. Every round but the last reads a character, so
without a limit there is one round for each of them, and one more. -/
def roundsLeft (text : Array Char) (more : Option Nat) (position : Nat) : Nat :=
  let room := text.size - position + 1
  match more with
  | some limit => min limit room
  | none => room

/-- A given number of rounds. Where one fails, the matcher stands in front of it again. -/
def rounds (step : Step) (go : Continue) : (count position : Nat) → Trail → Outcome
  | 0, position, trail => go position trail
  | count + 1, position, trail =>
    (step position (trail.pausedAt position) (rounds step go count)).onFailure
      (·.pausedAt position)

/-- Up to `count` rounds, as many as possible first. A round that does not move is the last; `last`
is where the round before began. -/
def manyRounds (step : Step) (go : Continue) :
    (count : Nat) → (last : Option Nat) → (position : Nat) → Trail → Outcome
  | 0, _, position, trail => (go position (trail.pausedAt position)).onFailure (·.pausedAt position)
  | count + 1, last, position, trail =>
    let here := trail.pausedAt position
    let leave (trail : Trail) : Outcome := (go position trail).onFailure (·.pausedAt position)
    if last = some position then leave here
    else
      (step position here (manyRounds step go count (some position))).orElse fun _ => leave here

/-- Up to `count` rounds, as few as possible first. A round that does not move is the last; `last`
is where the round before began. -/
def fewRounds (step : Step) (go : Continue) (inRounds : Bool) :
    (count : Nat) → (last : Option Nat) → (position : Nat) → Trail → Outcome
  | count, last, position, trail =>
    let here := trail.pausedAt position
    (go position here).orElse fun left =>
      let left := (left.restored here inRounds).pausedAt position
      match count with
      | 0 => .failed left
      | count + 1 =>
        if last = some position then .failed left
        else
          (step position left (fewRounds step go inRounds count (some position))).onFailure
            (·.pausedAt position)

/-- Goes on from where the matcher stands after rounds that are never taken back: a number that
has to succeed. -/
def settledRounds (step : Step) : (count : Nat) → Trail → Outcome
  | 0, trail => .matched trail
  | count + 1, trail =>
    match step trail.cursor trail finish with
    | .failed left => .failed left
    | .matched found => settledRounds step count found

/-- The trail after up to `count` rounds that are never taken back. A round that fails leaves its
cursor behind, and one that does not move is the last. -/
def drain (step : Step) : (count : Nat) → Trail → Trail
  | 0, trail => trail
  | count + 1, trail =>
    match step trail.cursor trail finish with
    | .failed left => left.restored trail true
    | .matched found => if found.cursor = trail.cursor then found else drain step count found

/-- A repetition of a pattern. -/
def repeatedOf (text : Array Char) (inRounds : Bool) (greed : Greed) (least : Nat)
    (more : Option Nat) (step : Step) : Step := fun position trail go =>
  match greed with
  | .greedy =>
    rounds step (fun position trail =>
      manyRounds step go (roundsLeft text more position) none position trail) least position trail
  | .lazy =>
    rounds step (fun position trail =>
      fewRounds step go inRounds (roundsLeft text more position) none position trail)
      least position trail
  | .possessive =>
    match settledRounds step least (trail.pausedAt position) with
    | .failed left => .failed (left.pausedAt position)
    | .matched found =>
      let done := drain step (roundsLeft text more found.cursor) found
      go done.cursor done

/-! ## The matcher -/

/-- Runs a pattern at a position of a text, and then what follows. -/
def Node.run (text : Array Char) : Node → (inRounds : Bool) → Step
  | empty, _, position, trail, go => go position trail
  | never, _, _, trail, _ => .failed trail
  | char test, _, position, trail, go =>
    if test.holdsAt text position then go (position + 1) trail else .failed trail
  | anchor a, _, position, trail, go =>
    if a.holds text position then go position trail else .failed trail
  | seq a b, inRounds, position, trail, go =>
    a.run text inRounds position trail fun position trail => b.run text inRounds position trail go
  | either opening a b, inRounds, position, trail, go =>
    if opening.all (·.holdsAt text position) then
      (a.run text inRounds position (trail.pausedAt position) go).orElse fun left =>
        b.run text inRounds position (left.restored trail inRounds) go
    else b.run text inRounds position trail go
  | stretch greed least more test next, inRounds, position, trail, go =>
    stretchOf text inRounds greed least more test next position trail go
  | repeated greed least more body, inRounds, position, trail, go =>
    repeatedOf text inRounds greed least more
      (body.run text (inRounds || greed != .possessive)) position trail go
  | group index body, inRounds, position, trail, go =>
    body.run text inRounds position (trail.openGroup index position) fun position trail =>
      go position (trail.closeGroup index position)
  | sameAs index rule, _, position, trail, go =>
    match trail.captured? index with
    | some (first, last) =>
      if repeatsAt text rule first position (last - first) then
        go (position + (last - first)) trail
      else .failed trail
    | none => .failed trail
  | look back negated body, inRounds, position, trail, go =>
    if position < back then (if negated then go position trail else .failed trail)
    else
      match body.run text inRounds (position - back) (trail.pausedAt (position - back)) finish,
        negated with
      | .matched found, false => go position found
      | .matched found, true => .failed found
      | .failed left, false => .failed left
      | .failed left, true => go position (left.restored trail inRounds)
  | atomic body, inRounds, position, trail, go =>
    match body.run text inRounds position (trail.pausedAt position) finish with
    | .matched found => go found.cursor found
    | .failed left => .failed (left.pausedAt position)
  | ifGroup index yes no, inRounds, position, trail, go =>
    match trail.captured? index with
    | some _ => yes.run text inRounds position trail go
    | none => no.run text inRounds position trail go

/-! ## What a match answers -/

/-- Whatever the step matches has been matched by what follows it. -/
def Step.Faithful (step : Step) : Prop :=
  ∀ {position : Nat} {trail : Trail} {go : Continue} {found : Trail},
    step position trail go = .matched found →
      ∃ position' trail', go position' trail' = .matched found

theorem attempt_matched {allowed : Nat → Bool} {restore : Trail → Trail} {go : Continue}
    {position : Nat} {trail found : Trail}
    (h : attempt allowed restore go position trail = .matched found) :
    ∃ trail', go position trail' = .matched found := by
  unfold attempt at h
  split at h
  · exact ⟨_, Outcome.onFailure_eq_matched.1 h⟩
  · cases h

theorem shrinking_matched {allowed : Nat → Bool} {restore : Trail → Trail} {go : Continue}
    {first extra : Nat} {trail found : Trail}
    (h : shrinking allowed restore go first extra trail = .matched found) :
    ∃ position' trail', go position' trail' = .matched found := by
  induction extra generalizing trail with
  | zero => exact ⟨_, attempt_matched h⟩
  | succ extra ih =>
    rcases Outcome.orElse_eq_matched.1 h with h | ⟨left, _, h⟩
    · exact ⟨_, attempt_matched h⟩
    · exact ih h

theorem growing_matched {test : CharTest} {text : Array Char} {restore : Trail → Trail}
    {go : Continue} {extra position : Nat} {trail found : Trail}
    (h : growing test text restore go extra position trail = .matched found) :
    ∃ position' trail', go position' trail' = .matched found := by
  induction extra generalizing position trail with
  | zero =>
    unfold growing at h
    rcases Outcome.orElse_eq_matched.1 h with h | ⟨left, _, h⟩
    · exact ⟨_, _, h⟩
    · dsimp only at h
      split at h <;> cases h
  | succ extra ih =>
    unfold growing at h
    rcases Outcome.orElse_eq_matched.1 h with h | ⟨left, _, h⟩
    · exact ⟨_, _, h⟩
    · dsimp only at h
      split at h
      · exact ih h
      · cases h

theorem stretchOf_faithful (text : Array Char) (inRounds : Bool) (greed : Greed) (least : Nat)
    (more : Option Nat) (test : CharTest) (next : Option Nat) :
    Step.Faithful (stretchOf text inRounds greed least more test next) := by
  intro position trail go found h
  unfold stretchOf at h
  dsimp only at h
  split at h
  · cases h
  · split at h
    · split at h
      · cases h
      · exact growing_matched h
    · split at h
      · cases h
      · exact shrinking_matched h
    · split at h
      · cases h
      · exact ⟨_, _, h⟩

theorem rounds_matched {step : Step} (hs : step.Faithful) {go : Continue} {count position : Nat}
    {trail found : Trail} (h : rounds step go count position trail = .matched found) :
    ∃ position' trail', go position' trail' = .matched found := by
  induction count generalizing position trail with
  | zero => exact ⟨_, _, h⟩
  | succ count ih =>
    obtain ⟨_, _, h'⟩ := hs (Outcome.onFailure_eq_matched.1 h)
    exact ih h'

theorem manyRounds_matched {step : Step} (hs : step.Faithful) {go : Continue}
    {count position : Nat} {last : Option Nat} {trail found : Trail}
    (h : manyRounds step go count last position trail = .matched found) :
    ∃ position' trail', go position' trail' = .matched found := by
  induction count generalizing last position trail with
  | zero => exact ⟨_, _, Outcome.onFailure_eq_matched.1 h⟩
  | succ count ih =>
    unfold manyRounds at h
    dsimp only at h
    split at h
    · exact ⟨_, _, Outcome.onFailure_eq_matched.1 h⟩
    · rcases Outcome.orElse_eq_matched.1 h with h | ⟨_, _, h⟩
      · obtain ⟨_, _, h'⟩ := hs h
        exact ih h'
      · exact ⟨_, _, Outcome.onFailure_eq_matched.1 h⟩

theorem fewRounds_matched {step : Step} (hs : step.Faithful) {go : Continue} {inRounds : Bool}
    {count position : Nat} {last : Option Nat} {trail found : Trail}
    (h : fewRounds step go inRounds count last position trail = .matched found) :
    ∃ position' trail', go position' trail' = .matched found := by
  induction count generalizing last position trail with
  | zero =>
    unfold fewRounds at h
    rcases Outcome.orElse_eq_matched.1 h with h | ⟨_, _, h⟩
    · exact ⟨_, _, h⟩
    · cases h
  | succ count ih =>
    unfold fewRounds at h
    rcases Outcome.orElse_eq_matched.1 h with h | ⟨_, _, h⟩
    · exact ⟨_, _, h⟩
    · dsimp only at h
      split at h
      · cases h
      · obtain ⟨_, _, h'⟩ := hs (Outcome.onFailure_eq_matched.1 h)
        exact ih h'

theorem repeatedOf_faithful {step : Step} (hs : step.Faithful) (text : Array Char)
    (inRounds : Bool) (greed : Greed) (least : Nat) (more : Option Nat) :
    Step.Faithful (repeatedOf text inRounds greed least more step) := by
  intro position trail go found h
  unfold repeatedOf at h
  cases greed with
  | greedy =>
    obtain ⟨_, _, h'⟩ := rounds_matched hs h
    exact manyRounds_matched hs h'
  | lazy =>
    obtain ⟨_, _, h'⟩ := rounds_matched hs h
    exact fewRounds_matched hs h'
  | possessive =>
    dsimp only at h
    split at h
    · cases h
    · exact ⟨_, _, h⟩

/-- Whatever a pattern matches has been matched by what follows it. -/
theorem Node.run_faithful (text : Array Char) (node : Node) (inRounds : Bool) :
    Step.Faithful (node.run text inRounds) := by
  induction node generalizing inRounds with
  | empty => intro position trail go found h; exact ⟨_, _, h⟩
  | never => intro position trail go found h; cases h
  | char test =>
    intro position trail go found h
    simp only [Node.run] at h
    split at h
    · exact ⟨_, _, h⟩
    · cases h
  | anchor a =>
    intro position trail go found h
    simp only [Node.run] at h
    split at h
    · exact ⟨_, _, h⟩
    · cases h
  | seq a b iha ihb =>
    intro position trail go found h
    have ⟨_, _, h'⟩ := @iha inRounds position _ _ _ h
    exact ihb inRounds h'
  | either opening a b iha ihb =>
    intro position trail go found h
    simp only [Node.run] at h
    split at h
    · rcases Outcome.orElse_eq_matched.1 h with h | ⟨_, _, h⟩
      · exact iha inRounds h
      · exact ihb inRounds h
    · exact ihb inRounds h
  | stretch greed least more test next =>
    exact stretchOf_faithful text inRounds greed least more test next
  | repeated greed least more body ih =>
    exact repeatedOf_faithful (ih _) text inRounds greed least more
  | group index body ih =>
    intro position trail go found h
    have ⟨_, _, h'⟩ := @ih inRounds position _ _ _ h
    exact ⟨_, _, h'⟩
  | sameAs index rule =>
    intro position trail go found h
    simp only [Node.run] at h
    split at h
    · split at h
      · exact ⟨_, _, h⟩
      · cases h
    · cases h
  | look back negated body ih =>
    intro position trail go found h
    simp only [Node.run] at h
    split at h
    · split at h
      · exact ⟨_, _, h⟩
      · cases h
    · split at h
      · exact ⟨_, _, h⟩
      · cases h
      · cases h
      · exact ⟨_, _, h⟩
  | atomic body ih =>
    intro position trail go found h
    simp only [Node.run] at h
    split at h
    · exact ⟨_, _, h⟩
    · cases h
  | ifGroup index yes no ihy ihn =>
    intro position trail go found h
    simp only [Node.run] at h
    split at h
    · exact ihy inRounds h
    · exact ihn inRounds h

end SourceAudit.Pattern
