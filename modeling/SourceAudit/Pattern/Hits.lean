-- Compiled patterns, and all the hits of a pattern in a text from left to right. Hits do not
-- overlap. An empty hit may stand right behind another hit, but no two hits are empty at the
-- same place.

import SourceAudit.Pattern.Matcher
import SourceAudit.Pattern.Opening
import SourceAudit.Pattern.Reader
import SourceAudit.Pattern.Resolution

namespace SourceAudit

/-- A pattern with the text it was read from. `ignoresCase` tells of the whole pattern. No match
is shorter than `least`, and with `opening`, every match begins with a character that passes it. -/
structure Pattern where
  source : WideText
  ignoresCase : Bool
  root : Pattern.Node
  least : Nat
  opening : Option Pattern.CharTest
  deriving Repr

namespace Pattern

/-- Patterns look back less far than this. -/
def reachLimit : Nat := 2147483648

/-- Reads a pattern. -/
def compile (source : WideText) (ignoreCase : Bool) : Except Fault Pattern := do
  let draft ← Draft.ofText ignoreCase source
  let resolved ← Term.resolveAll draft.groupWidth draft.flags none draft.terms
  let least := (Term.widthOf draft.groupWidth draft.terms).least
  if depthLimit < Term.depthOf draft.terms then abandon .nestedTooDeep
  else if reachLimit ≤ resolved.node.reach then abandon .lookBehindTooLong
  else
    return {
      source := source
      ignoresCase := draft.flags.ignoreCase
      root := resolved.node
      least := least
      opening := if least = 0 then none else Term.opening? draft.flags draft.terms }

/-- A stretch of a text, from the position `start` up to the position `stop`. -/
structure Hit where
  start : Nat
  stop : Nat
  deriving DecidableEq, Repr

/-- The text of a hit. -/
def Hit.text (hit : Hit) (text : Array Char) : List Char :=
  (text.extract hit.start hit.stop).toList

/-- A match may begin at a position. -/
def mayBegin (p : Pattern) (text : Array Char) (position : Nat) : Bool :=
  p.opening.all (·.holdsAt text position)

/-- Where a match ends that begins at a position. Where `moving` is set, the match must not be
empty. -/
def endOfMatch? (p : Pattern) (text : Array Char) (start : Nat) (moving : Bool) : Option Nat :=
  let ending : Continue := fun position trail =>
    if moving && position ≤ start then .failed trail else finish position trail
  match p.root.run text false start { cursor := start } ending with
  | .matched found => some found.cursor
  | .failed _ => none

/-- The first hit that begins at one of the next `places` positions. -/
def firstHit? (p : Pattern) (text : Array Char) :
    (places start : Nat) → (moving : Bool) → Option Hit
  | 0, _, _ => none
  | places + 1, start, moving =>
    match if p.mayBegin text start then p.endOfMatch? text start moving else none with
    | some stop => some ⟨start, stop⟩
    | none => firstHit? p text places (start + 1) false

/-- At how many positions from one on a match is looked for. One that is too short for the rest of
the text is not looked for at all. -/
def placesFrom (p : Pattern) (text : Array Char) (start : Nat) : Nat :=
  if text.size - start < p.least then 0
  else if p.opening.isSome then text.size - start
  else text.size + 1 - (p.least - 1) - start

/-! ## Where the first hit lies -/

theorem lt_of_endOfMatch?_moving {p : Pattern} {text : Array Char} {start stop : Nat}
    (h : p.endOfMatch? text start true = some stop) : start < stop := by
  unfold endOfMatch? at h
  dsimp only at h
  split at h
  · next found hrun =>
    obtain ⟨position, trail, hs⟩ := Node.run_faithful text p.root false hrun
    split at hs
    · cases hs
    · next hle =>
      cases hs
      cases h
      simpa using hle
  · cases h

theorem placesFrom_le (p : Pattern) (text : Array Char) (start : Nat) :
    p.placesFrom text start ≤ text.size + 1 - start := by
  unfold placesFrom
  split
  · omega
  · split <;> omega

/-- A hit begins where the search began, or behind. -/
theorem start_le_of_firstHit? {p : Pattern} {text : Array Char} {places start : Nat}
    {moving : Bool} {hit : Hit} (h : p.firstHit? text places start moving = some hit) :
    start ≤ hit.start := by
  induction places generalizing start moving with
  | zero => simp [firstHit?] at h
  | succ places ih =>
    unfold firstHit? at h
    split at h
    · simp only [Option.some.injEq] at h; subst h; exact Nat.le_refl _
    · exact Nat.le_of_succ_le (ih h)

/-- A hit begins at one of the places where it was looked for. -/
theorem start_lt_of_firstHit? {p : Pattern} {text : Array Char} {places start : Nat}
    {moving : Bool} {hit : Hit} (h : p.firstHit? text places start moving = some hit) :
    hit.start < start + places := by
  induction places generalizing start moving with
  | zero => simp [firstHit?] at h
  | succ places ih =>
    unfold firstHit? at h
    split at h
    · simp only [Option.some.injEq] at h; subst h; simp
    · have := ih h; omega

/-- Where a match has to move, a hit at the first place is not empty. -/
theorem lt_of_firstHit?_moving {p : Pattern} {text : Array Char} {places start : Nat} {hit : Hit}
    (h : p.firstHit? text places start true = some hit) (hstart : hit.start = start) :
    start < hit.stop := by
  cases places with
  | zero => simp [firstHit?] at h
  | succ places =>
    unfold firstHit? at h
    split at h
    · next hend =>
      simp only [Option.some.injEq] at h; subst h
      split at hend
      · exact lt_of_endOfMatch?_moving hend
      · cases hend
    · have := start_le_of_firstHit? h; omega

/-! ## All hits -/

/-- The hits from a position on. Behind an empty hit, the search goes on at the same place for
one that is not empty. -/
def hitsFrom (p : Pattern) (text : Array Char) (start : Nat) (moving : Bool) : List Hit :=
  match _h : p.firstHit? text (p.placesFrom text start) start moving with
  | none => []
  | some hit =>
    hit :: if hit.start < hit.stop then hitsFrom p text hit.stop false
      else hitsFrom p text hit.start true
termination_by 2 * (text.size + 1 - start) + (if moving then 0 else 1)
decreasing_by
  · have hle := start_le_of_firstHit? _h
    have hlt := start_lt_of_firstHit? _h
    have hplaces := p.placesFrom_le text start
    split <;> simp <;> omega
  · have hle := start_le_of_firstHit? _h
    have hlt := start_lt_of_firstHit? _h
    have hplaces := p.placesFrom_le text start
    cases moving with
    | false => simp; omega
    | true =>
      have hmove := lt_of_firstHit?_moving _h
      simp; omega

/-- All hits in a text, from left to right. -/
def hits (p : Pattern) (text : Array Char) : List Hit :=
  p.hitsFrom text 0 false

/-- The pattern matches a stretch of the empty text. -/
def matchesEmpty (p : Pattern) : Bool :=
  p.least = 0 && (p.endOfMatch? #[] 0 false).isSome

end Pattern

end SourceAudit
