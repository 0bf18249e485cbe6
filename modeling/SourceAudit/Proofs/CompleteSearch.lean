-- What a pattern spans, told without trying: the stretches of a text that some way through the
-- pattern leads along. Trying one way after another misses none of them. What the matcher matches
-- is such a stretch, and wherever what follows accepts the end of one, the matcher succeeds. This
-- holds of all patterns but those that ask what a group has matched or settle for the first way.

import SourceAudit.Proofs.MatcherBounds

namespace SourceAudit.Pattern

/-! ## What a pattern spans -/

/-- All characters from one position up to another pass the test. -/
def CharTest.Fills (test : CharTest) (text : Array Char) (start stop : Nat) : Prop :=
  ∀ i, start ≤ i → i < stop → test.holdsAt text i = true

/-- A number of stretches, each of which begins where the one before ends. -/
def Chain (spans : Nat → Nat → Prop) : (count start stop : Nat) → Prop
  | 0, start, stop => stop = start
  | count + 1, start, stop => ∃ middle, spans start middle ∧ Chain spans count middle stop

/-- As many stretches as a repetition allows, between a least and a greatest number. -/
def Repeats (spans : Nat → Nat → Prop) (least : Nat) (more : Option Nat) (start stop : Nat) :
    Prop :=
  ∃ count, least ≤ count ∧ (∀ limit ∈ more, count ≤ least + limit) ∧ Chain spans count start stop

/-- Every way through the pattern may be tried, and none hangs on what was matched before. -/
def Node.isRegular : Node → Bool
  | empty | never | char _ | anchor _ => true
  | seq a b | either _ a b => a.isRegular && b.isRegular
  | stretch greed _ _ _ _ => greed != .possessive
  | repeated greed _ _ body => greed != .possessive && body.isRegular
  | group _ body | look _ _ body => body.isRegular
  | sameAs .. | atomic _ | ifGroup .. => false

/-- Some way through a regular pattern leads from one position of a text to another. -/
def Node.Spans (text : Array Char) : Node → (start stop : Nat) → Prop
  | empty, start, stop => stop = start
  | never, _, _ => False
  | char test, start, stop => test.holdsAt text start = true ∧ stop = start + 1
  | anchor a, start, stop => a.holds text start = true ∧ stop = start
  | seq a b, start, stop => ∃ middle, a.Spans text start middle ∧ b.Spans text middle stop
  | either opening a b, start, stop =>
    (opening.all (·.holdsAt text start) = true ∧ a.Spans text start stop) ∨ b.Spans text start stop
  | stretch greed least more test next, start, stop =>
    start + least ≤ stop ∧ (∀ limit ∈ more, stop ≤ start + least + limit) ∧
      test.Fills text start stop ∧ (greed = .greedy → next.all (standsAt text stop) = true)
  | repeated _ least more body, start, stop => Repeats (body.Spans text) least more start stop
  | group _ body, start, stop => body.Spans text start stop
  | look back negated body, start, stop =>
    stop = start ∧ ((back ≤ start ∧ ∃ last, body.Spans text (start - back) last) ↔ negated = false)
  | sameAs .., _, _ | atomic _, _, _ | ifGroup .., _, _ => False

/-! ### Stretches of characters -/

section Fills

variable {test : CharTest} {text : Array Char} {start middle stop : Nat}

theorem CharTest.Fills.append (h : test.Fills text start middle)
    (h' : test.Fills text middle stop) : test.Fills text start stop := by
  intro i hi hstop
  by_cases hmiddle : i < middle
  · exact h i hi hmiddle
  · exact h' i (by omega) hstop

theorem CharTest.Fills.mono (h : test.Fills text start stop) (hs : start ≤ middle) {last : Nat}
    (hl : last ≤ stop) : test.Fills text middle last :=
  fun i hi hlast => h i (by omega) (by omega)

theorem CharTest.Fills.le_size (h : test.Fills text start stop) (hlt : start < stop) :
    stop ≤ text.size := by
  have := lt_size_of_holdsAt (h (stop - 1) (by omega) (by omega))
  omega

theorem CharTest.le_runEnd (test : CharTest) (text : Array Char) (limit start : Nat) :
    start ≤ test.runEnd text limit start := by
  induction limit generalizing start with
  | zero => exact Nat.le_refl _
  | succ limit ih =>
    unfold runEnd
    split
    · exact Nat.le_of_succ_le (ih (start + 1))
    · exact Nat.le_refl _

/-- Characters are counted just as far as they pass the test. -/
theorem CharTest.le_runEnd_iff {limit : Nat} (hle : start ≤ stop) :
    stop ≤ test.runEnd text limit start ↔ stop ≤ start + limit ∧ test.Fills text start stop := by
  rcases Nat.eq_or_lt_of_le hle with rfl | hlt
  · exact ⟨fun _ => ⟨Nat.le_add_right _ _, fun i _ _ => by omega⟩, fun _ => test.le_runEnd text _ _⟩
  induction limit generalizing start with
  | zero =>
    unfold runEnd
    exact ⟨fun h => by omega, fun h => by omega⟩
  | succ limit ih =>
    unfold runEnd
    split
    · next hfirst =>
      rcases Nat.eq_or_lt_of_le hlt with rfl | hlt
      · refine ⟨fun _ => ⟨by omega, fun i hi hstop => ?_⟩, fun _ => test.le_runEnd text _ _⟩
        obtain rfl : i = start := by omega
        exact hfirst
      · rw [ih (by omega) hlt]
        constructor
        · rintro ⟨hlimit, hrest⟩
          refine ⟨by omega, fun i hi hstop => ?_⟩
          rcases Nat.eq_or_lt_of_le hi with rfl | hi
          · exact hfirst
          · exact hrest i hi hstop
        · rintro ⟨hlimit, hall⟩
          exact ⟨by omega, hall.mono (Nat.le_succ _) (Nat.le_refl _)⟩
    · next hfirst =>
      refine ⟨fun h => by omega, ?_⟩
      rintro ⟨-, hall⟩
      exact absurd (hall start (Nat.le_refl _) hlt) hfirst

end Fills

/-! ### Chains -/

section Chain

variable {spans : Nat → Nat → Prop} {start middle stop : Nat}

theorem chain_add_iff {first second : Nat} :
    Chain spans (first + second) start stop ↔
      ∃ middle, Chain spans first start middle ∧ Chain spans second middle stop := by
  induction first generalizing start with
  | zero =>
    rw [Nat.zero_add]
    exact ⟨fun h => ⟨start, rfl, h⟩, fun ⟨_, hfirst, h⟩ => hfirst ▸ h⟩
  | succ first ih =>
    rw [Nat.succ_add]
    constructor
    · rintro ⟨next, hspan, hrest⟩
      obtain ⟨middle, hfirst, hsecond⟩ := ih.1 hrest
      exact ⟨middle, ⟨next, hspan, hfirst⟩, hsecond⟩
    · rintro ⟨middle, ⟨next, hspan, hfirst⟩, hsecond⟩
      exact ⟨next, hspan, ih.2 ⟨middle, hfirst, hsecond⟩⟩

/-- A relation between the ends of stretches that never leads back, nor from inside a text to
outside of it. -/
def Forward (size : Nat) (spans : Nat → Nat → Prop) : Prop :=
  ∀ ⦃start stop : Nat⦄, spans start stop → start ≤ stop ∧ stop ≤ max start size

theorem Forward.chain {size : Nat} (h : Forward size spans) (count : Nat) :
    Forward size (Chain spans count) := by
  induction count with
  | zero =>
    rintro start stop rfl
    omega
  | succ count ih =>
    rintro start stop ⟨middle, hspan, hrest⟩
    have := h hspan
    have := ih hrest
    omega

/-- Stretches that do not move may be left out of a chain. -/
theorem Forward.exists_moving {size count : Nat} (h : Forward size spans)
    (hchain : Chain spans count start stop) :
    ∃ fewer ≤ count, start + fewer ≤ stop ∧
      Chain (fun a b => a < b ∧ spans a b) fewer start stop := by
  induction count generalizing start with
  | zero =>
    obtain rfl := hchain
    exact ⟨0, Nat.le_refl _, Nat.le_refl _, rfl⟩
  | succ count ih =>
    obtain ⟨middle, hspan, hrest⟩ := hchain
    obtain ⟨fewer, hfewer, hstop, hmoving⟩ := ih hrest
    rcases Nat.eq_or_lt_of_le (h hspan).1 with rfl | hlt
    · exact ⟨fewer, by omega, hstop, hmoving⟩
    · exact ⟨fewer + 1, by omega, by omega, middle, ⟨hlt, hspan⟩, hmoving⟩

end Chain

/-- What a pattern spans lies in front of where it began, and inside the text. -/
theorem Node.forward_spans (text : Array Char) (node : Node) :
    Forward text.size (node.Spans text) := by
  induction node with
  | empty => rintro start stop rfl; omega
  | never => rintro start stop ⟨⟩
  | char test =>
    rintro start stop ⟨hholds, rfl⟩
    have := CharTest.lt_size_of_holdsAt hholds
    omega
  | anchor a => rintro start stop ⟨-, rfl⟩; omega
  | seq a b iha ihb =>
    rintro start stop ⟨middle, ha, hb⟩
    have := iha ha
    have := ihb hb
    omega
  | either opening a b iha ihb =>
    rintro start stop (⟨-, ha⟩ | hb)
    · exact iha ha
    · exact ihb hb
  | stretch greed least more test next =>
    rintro start stop ⟨hleast, -, hfills, -⟩
    rcases Nat.eq_or_lt_of_le (Nat.le_of_add_right_le hleast) with rfl | hlt
    · omega
    · have := hfills.le_size hlt
      omega
  | repeated greed least more body ih =>
    rintro start stop ⟨count, -, -, hchain⟩
    exact ih.chain count hchain
  | group index body ih => exact ih
  | look back negated body ih => rintro start stop ⟨rfl, -⟩; omega
  | sameAs index rule => rintro start stop ⟨⟩
  | atomic body ih => rintro start stop ⟨⟩
  | ifGroup index yes no ihy ihn => rintro start stop ⟨⟩

/-! ## Searching for a stretch -/

/-- An attempt ends in a match. -/
def Outcome.Succeeds (outcome : Outcome) : Prop :=
  ∃ found, outcome = .matched found

theorem Outcome.succeeds_matched (found : Trail) : (matched found).Succeeds :=
  ⟨found, rfl⟩

theorem Outcome.not_succeeds_failed (left : Trail) : ¬ (failed left).Succeeds :=
  nofun

@[simp] theorem Outcome.succeeds_onFailure {outcome : Outcome} {change : Trail → Trail} :
    (outcome.onFailure change).Succeeds ↔ outcome.Succeeds := by
  simp only [Succeeds, onFailure_eq_matched]

theorem Outcome.Succeeds.orElse {outcome : Outcome} (h : outcome.Succeeds)
    (next : Trail → Outcome) : (outcome.orElse next).Succeeds := by
  obtain ⟨found, rfl⟩ := h
  exact succeeds_matched found

/-- Where the second attempt succeeds whatever the first has left, it does not matter how the first
one ends. -/
theorem Outcome.succeeds_orElse (outcome : Outcome) {next : Trail → Outcome}
    (h : ∀ left, (next left).Succeeds) : (outcome.orElse next).Succeeds := by
  cases outcome with
  | failed left => exact h left
  | matched found => exact succeeds_matched found

/-- What follows a match succeeds at a position, whatever the trail. -/
def Continue.Accepts (go : Continue) (position : Nat) : Prop :=
  ∀ trail, (go position trail).Succeeds

theorem finish_accepts (position : Nat) : Continue.Accepts finish position :=
  fun trail => ⟨trail.pausedAt position, rfl⟩

/-- The step finds its way along the stretches of a relation. What it matches has such a stretch in
front of what follows, and it succeeds in front of every one whose end is accepted. -/
structure Step.Searches (step : Step) (spans : Nat → Nat → Prop) : Prop where
  sound : ∀ {position : Nat} {trail : Trail} {go : Continue} {found : Trail},
    step position trail go = .matched found →
      ∃ stop trail', spans position stop ∧ go stop trail' = .matched found
  complete : ∀ {position stop : Nat} {go : Continue}, spans position stop → go.Accepts stop →
    ∀ trail, (step position trail go).Succeeds

/-! ### Stretches of characters -/

section Stretch

variable {allowed : Nat → Bool} {restore : Trail → Trail} {go : Continue}

theorem attempt_sound {position : Nat} {trail found : Trail}
    (h : attempt allowed restore go position trail = .matched found) :
    allowed position = true ∧ ∃ trail', go position trail' = .matched found := by
  unfold attempt at h
  split at h
  · next hallowed => exact ⟨hallowed, _, Outcome.onFailure_eq_matched.1 h⟩
  · cases h

theorem attempt_complete {position : Nat} (hallowed : allowed position = true)
    (hgo : go.Accepts position) (trail : Trail) :
    (attempt allowed restore go position trail).Succeeds := by
  unfold attempt
  rw [if_pos hallowed, Outcome.succeeds_onFailure]
  exact hgo _

theorem shrinking_sound {first extra : Nat} {trail found : Trail}
    (h : shrinking allowed restore go first extra trail = .matched found) :
    ∃ stop trail', first ≤ stop ∧ stop ≤ first + extra ∧ allowed stop = true ∧
      go stop trail' = .matched found := by
  induction extra generalizing trail with
  | zero =>
    obtain ⟨hallowed, trail', hgo⟩ := attempt_sound h
    exact ⟨first, trail', Nat.le_refl _, Nat.le_refl _, hallowed, hgo⟩
  | succ extra ih =>
    rcases Outcome.orElse_eq_matched.1 h with h | ⟨left, -, h⟩
    · obtain ⟨hallowed, trail', hgo⟩ := attempt_sound h
      exact ⟨_, trail', by omega, Nat.le_refl _, hallowed, hgo⟩
    · obtain ⟨stop, trail', hfirst, hextra, hrest⟩ := ih h
      exact ⟨stop, trail', hfirst, by omega, hrest⟩

theorem shrinking_complete {first extra stop : Nat} (hfirst : first ≤ stop)
    (hextra : stop ≤ first + extra) (hallowed : allowed stop = true) (hgo : go.Accepts stop)
    (trail : Trail) : (shrinking allowed restore go first extra trail).Succeeds := by
  induction extra generalizing trail with
  | zero =>
    obtain rfl : stop = first := by omega
    exact attempt_complete hallowed hgo trail
  | succ extra ih =>
    rcases Nat.eq_or_lt_of_le hextra with rfl | hlt
    · exact (attempt_complete hallowed hgo trail).orElse _
    · exact Outcome.succeeds_orElse _ fun left => ih (by omega) left

variable {test : CharTest} {text : Array Char}

theorem growing_sound {extra position : Nat} {trail found : Trail}
    (h : growing test text restore go extra position trail = .matched found) :
    ∃ stop trail', position ≤ stop ∧ stop ≤ position + extra ∧ test.Fills text position stop ∧
      go stop trail' = .matched found := by
  induction extra generalizing position trail with
  | zero =>
    unfold growing at h
    rcases Outcome.orElse_eq_matched.1 h with h | ⟨left, -, h⟩
    · exact ⟨position, _, Nat.le_refl _, Nat.le_refl _, fun i _ _ => by omega, h⟩
    · dsimp only at h
      split at h <;> cases h
  | succ extra ih =>
    unfold growing at h
    rcases Outcome.orElse_eq_matched.1 h with h | ⟨left, -, h⟩
    · exact ⟨position, _, Nat.le_refl _, Nat.le_add_right _ _, fun i _ _ => by omega, h⟩
    · dsimp only at h
      split at h
      · next hholds =>
        obtain ⟨stop, trail', hposition, hextra, hfills, hgo⟩ := ih h
        refine ⟨stop, trail', by omega, by omega, fun i hi hstop => ?_, hgo⟩
        rcases Nat.eq_or_lt_of_le hi with rfl | hi
        · exact hholds
        · exact hfills i hi hstop
      · cases h

theorem growing_complete {extra position stop : Nat} (hposition : position ≤ stop)
    (hextra : stop ≤ position + extra) (hfills : test.Fills text position stop)
    (hgo : go.Accepts stop) (trail : Trail) :
    (growing test text restore go extra position trail).Succeeds := by
  induction extra generalizing position trail with
  | zero =>
    obtain rfl : stop = position := by omega
    unfold growing
    exact (hgo _).orElse _
  | succ extra ih =>
    unfold growing
    rcases Nat.eq_or_lt_of_le hposition with rfl | hlt
    · exact (hgo _).orElse _
    · apply Outcome.succeeds_orElse
      intro left
      dsimp only
      rw [if_pos (hfills position (Nat.le_refl _) hlt)]
      exact ih hlt (by omega) (hfills.mono (Nat.le_succ _) (Nat.le_refl _)) _

end Stretch

theorem charsLeft_le (text : Array Char) {more : Option Nat} {limit : Nat} (h : limit ∈ more)
    (position : Nat) : charsLeft text more position ≤ limit := by
  obtain rfl := h
  exact Nat.min_le_left _ _

/-- A limit and the end of the text are all that keeps from counting on. -/
theorem le_charsLeft {text : Array Char} {more : Option Nat} {position count : Nat}
    (hmore : ∀ limit ∈ more, count ≤ limit) (hroom : count ≤ text.size - position) :
    count ≤ charsLeft text more position := by
  unfold charsLeft
  cases more with
  | none => exact hroom
  | some limit => exact Nat.le_min.2 ⟨hmore limit rfl, hroom⟩

theorem stretchOf_searches (text : Array Char) (inRounds : Bool) {greed : Greed}
    (hgreed : greed ≠ .possessive) (least : Nat) (more : Option Nat) (test : CharTest)
    (next : Option Nat) :
    Step.Searches (stretchOf text inRounds greed least more test next)
      ((Node.stretch greed least more test next).Spans text) where
  sound := by
    intro position trail go found h
    unfold stretchOf at h
    dsimp only at h
    split at h
    · cases h
    cases greed with
    | lazy =>
      dsimp only at h
      split at h
      · cases h
      next hstop =>
      obtain ⟨stop, trail', hle, hextra, hfills, hgo⟩ := growing_sound h
      have hleast := test.le_runEnd text least position
      obtain ⟨hlimit, hcounted⟩ := (CharTest.le_runEnd_iff hleast).1 (Nat.le_refl _)
      refine ⟨stop, trail', ⟨by omega, fun limit hmore => ?_, hcounted.append hfills, nofun⟩, hgo⟩
      have := charsLeft_le text hmore (test.runEnd text least position)
      omega
    | greedy =>
      dsimp only at h
      split at h
      · cases h
      next hstop =>
      obtain ⟨stop, trail', hle, hextra, hallowed, hgo⟩ := shrinking_sound h
      have hcounted := test.le_runEnd text (charsLeft text (more.map (least + ·)) position) position
      obtain ⟨hlimit, hfills⟩ := (CharTest.le_runEnd_iff (by omega)).1
        (show stop ≤ test.runEnd text (charsLeft text (more.map (least + ·)) position) position by
          omega)
      refine ⟨stop, trail', ⟨hle, fun limit hmore => ?_, hfills, fun _ => hallowed⟩, hgo⟩
      have := charsLeft_le text (Option.mem_map_of_mem (least + ·) hmore) position
      omega
    | possessive => exact absurd rfl hgreed
  complete := by
    rintro position stop go ⟨hleast, hmore, hfills, hnext⟩ hgo trail
    have hroom : stop - position ≤ text.size - position := by
      by_cases hlt : position < stop
      · have := hfills.le_size hlt
        omega
      · omega
    unfold stretchOf
    dsimp only
    rw [if_neg (by omega)]
    cases greed with
    | lazy =>
      have hstop : test.runEnd text least position = position + least := by
        apply Nat.le_antisymm
        · exact ((CharTest.le_runEnd_iff (test.le_runEnd text _ _)).1 (Nat.le_refl _)).1
        · exact (CharTest.le_runEnd_iff (by omega)).2
            ⟨Nat.le_refl _, hfills.mono (Nat.le_refl _) hleast⟩
      dsimp only
      rw [hstop, if_neg (by omega)]
      have hextra : stop - (position + least) ≤ charsLeft text more (position + least) :=
        le_charsLeft (fun limit hlimit => by have := hmore limit hlimit; omega) (by omega)
      exact growing_complete hleast (by omega) (hfills.mono (by omega) (Nat.le_refl _)) hgo _
    | greedy =>
      have hcount : stop - position ≤ charsLeft text (more.map (least + ·)) position := by
        refine le_charsLeft (fun limit hlimit => ?_) hroom
        obtain ⟨beyond, hbeyond, rfl⟩ := Option.map_eq_some_iff.1 hlimit
        have := hmore beyond hbeyond
        omega
      have hend : stop ≤
          test.runEnd text (charsLeft text (more.map (least + ·)) position) position :=
        (CharTest.le_runEnd_iff (by omega)).2 ⟨by omega, hfills⟩
      dsimp only
      rw [if_neg (by omega)]
      exact shrinking_complete hleast (by omega) (hnext rfl) hgo _
    | possessive => exact absurd rfl hgreed

/-! ### Rounds -/

section Rounds

variable {step : Step} {spans : Nat → Nat → Prop} {go : Continue}

theorem rounds_searches (hs : step.Searches spans) (count : Nat) :
    Step.Searches (fun position trail go => rounds step go count position trail)
      (Chain spans count) where
  sound := by
    intro position trail go found h
    induction count generalizing position trail with
    | zero => exact ⟨position, trail, rfl, h⟩
    | succ count ih =>
      obtain ⟨middle, trail', hspan, hrest⟩ := hs.sound (Outcome.onFailure_eq_matched.1 h)
      obtain ⟨stop, trail'', hchain, hgo⟩ := ih hrest
      exact ⟨stop, trail'', ⟨middle, hspan, hchain⟩, hgo⟩
  complete := by
    intro position stop go hchain hgo trail
    induction count generalizing position trail with
    | zero =>
      obtain rfl := hchain
      exact hgo trail
    | succ count ih =>
      obtain ⟨middle, hspan, hrest⟩ := hchain
      exact Outcome.succeeds_onFailure.2 (hs.complete hspan (ih hrest) _)

theorem manyRounds_sound (hs : step.Searches spans) {count position : Nat} {last : Option Nat}
    {trail found : Trail} (h : manyRounds step go count last position trail = .matched found) :
    ∃ done ≤ count, ∃ stop trail', Chain spans done position stop ∧
      go stop trail' = .matched found := by
  induction count generalizing last position trail with
  | zero => exact ⟨0, Nat.le_refl _, position, _, rfl, Outcome.onFailure_eq_matched.1 h⟩
  | succ count ih =>
    unfold manyRounds at h
    dsimp only at h
    split at h
    · exact ⟨0, Nat.zero_le _, position, _, rfl, Outcome.onFailure_eq_matched.1 h⟩
    · rcases Outcome.orElse_eq_matched.1 h with h | ⟨left, -, h⟩
      · obtain ⟨middle, trail', hspan, hrest⟩ := hs.sound h
        obtain ⟨done, hdone, stop, trail'', hchain, hgo⟩ := ih hrest
        exact ⟨done + 1, by omega, stop, trail'', ⟨middle, hspan, hchain⟩, hgo⟩
      · exact ⟨0, Nat.zero_le _, position, _, rfl, Outcome.onFailure_eq_matched.1 h⟩

/-- Rounds are tried up to their number as long as each of them moves. -/
theorem manyRounds_complete (hs : step.Searches spans) {done count position stop : Nat}
    (hdone : done ≤ count) {last : Option Nat} (hlast : last ≠ some position)
    (hchain : Chain (fun a b => a < b ∧ spans a b) done position stop) (hgo : go.Accepts stop)
    (trail : Trail) : (manyRounds step go count last position trail).Succeeds := by
  induction done generalizing count last position trail with
  | zero =>
    obtain rfl := hchain
    cases count with
    | zero => exact Outcome.succeeds_onFailure.2 (hgo _)
    | succ count =>
      unfold manyRounds
      dsimp only
      rw [if_neg hlast]
      exact Outcome.succeeds_orElse _ fun _ => Outcome.succeeds_onFailure.2 (hgo _)
  | succ done ih =>
    obtain ⟨middle, ⟨hmoves, hspan⟩, hrest⟩ := hchain
    obtain ⟨count, rfl⟩ : ∃ fewer, count = fewer + 1 := ⟨count - 1, by omega⟩
    unfold manyRounds
    dsimp only
    rw [if_neg hlast]
    refine (hs.complete hspan (fun trail' => ?_) _).orElse _
    exact ih (by omega) (by simp; omega) hrest trail'

theorem fewRounds_sound (hs : step.Searches spans) {inRounds : Bool} {count position : Nat}
    {last : Option Nat} {trail found : Trail}
    (h : fewRounds step go inRounds count last position trail = .matched found) :
    ∃ done ≤ count, ∃ stop trail', Chain spans done position stop ∧
      go stop trail' = .matched found := by
  induction count generalizing last position trail with
  | zero =>
    unfold fewRounds at h
    rcases Outcome.orElse_eq_matched.1 h with h | ⟨left, -, h⟩
    · exact ⟨0, Nat.le_refl _, position, _, rfl, h⟩
    · cases h
  | succ count ih =>
    unfold fewRounds at h
    rcases Outcome.orElse_eq_matched.1 h with h | ⟨left, -, h⟩
    · exact ⟨0, Nat.zero_le _, position, _, rfl, h⟩
    · dsimp only at h
      split at h
      · cases h
      · obtain ⟨middle, trail', hspan, hrest⟩ := hs.sound (Outcome.onFailure_eq_matched.1 h)
        obtain ⟨done, hdone, stop, trail'', hchain, hgo⟩ := ih hrest
        exact ⟨done + 1, by omega, stop, trail'', ⟨middle, hspan, hchain⟩, hgo⟩

theorem fewRounds_complete (hs : step.Searches spans) {inRounds : Bool}
    {done count position stop : Nat} (hdone : done ≤ count) {last : Option Nat}
    (hlast : last ≠ some position)
    (hchain : Chain (fun a b => a < b ∧ spans a b) done position stop) (hgo : go.Accepts stop)
    (trail : Trail) : (fewRounds step go inRounds count last position trail).Succeeds := by
  induction done generalizing count last position trail with
  | zero =>
    obtain rfl := hchain
    unfold fewRounds
    exact (hgo _).orElse _
  | succ done ih =>
    obtain ⟨middle, ⟨hmoves, hspan⟩, hrest⟩ := hchain
    obtain ⟨count, rfl⟩ : ∃ fewer, count = fewer + 1 := ⟨count - 1, by omega⟩
    unfold fewRounds
    apply Outcome.succeeds_orElse
    intro left
    dsimp only
    rw [if_neg hlast, Outcome.succeeds_onFailure]
    refine hs.complete hspan (fun trail' => ?_) _
    exact ih (by omega) (by simp; omega) hrest trail'

end Rounds

theorem roundsLeft_le (text : Array Char) {more : Option Nat} {limit : Nat} (h : limit ∈ more)
    (position : Nat) : roundsLeft text more position ≤ limit := by
  obtain rfl := h
  exact Nat.min_le_left _ _

/-- Of the rounds beyond the least number, those that move are few enough to be tried. -/
theorem Repeats.exists_moving {text : Array Char} {spans : Nat → Nat → Prop}
    (hforward : Forward text.size spans) {least : Nat} {more : Option Nat} {start stop : Nat}
    (h : Repeats spans least more start stop) :
    ∃ middle, Chain spans least start middle ∧ ∃ fewer ≤ roundsLeft text more middle,
      Chain (fun a b => a < b ∧ spans a b) fewer middle stop := by
  obtain ⟨count, hleast, hmore, hchain⟩ := h
  obtain ⟨beyond, rfl⟩ := Nat.exists_eq_add_of_le hleast
  obtain ⟨middle, hfirst, hrest⟩ := chain_add_iff.1 hchain
  obtain ⟨fewer, hfewer, hstop, hmoving⟩ := hforward.exists_moving hrest
  have hend := (hforward.chain beyond hrest).2
  refine ⟨middle, hfirst, fewer, ?_, hmoving⟩
  unfold roundsLeft
  cases more with
  | none => dsimp only; omega
  | some limit =>
    have := hmore limit rfl
    exact Nat.le_min.2 ⟨by omega, by omega⟩

theorem repeatedOf_searches {step : Step} {spans : Nat → Nat → Prop} (text : Array Char)
    (hs : step.Searches spans) (hforward : Forward text.size spans) (inRounds : Bool)
    {greed : Greed} (hgreed : greed ≠ .possessive) (least : Nat) (more : Option Nat) :
    Step.Searches (repeatedOf text inRounds greed least more step) (Repeats spans least more) where
  sound := by
    intro position trail go found h
    unfold repeatedOf at h
    -- rounds beyond the least number come on top of a chain of that many
    have hjoin : ∀ {middle done stop : Nat}, Chain spans least position middle →
        done ≤ roundsLeft text more middle → Chain spans done middle stop →
        Repeats spans least more position stop := by
      intro middle done stop hfirst hdone hrest
      refine ⟨least + done, Nat.le_add_right _ _, fun limit hlimit => ?_,
        chain_add_iff.2 ⟨middle, hfirst, hrest⟩⟩
      have := roundsLeft_le text hlimit middle
      omega
    cases greed with
    | greedy =>
      obtain ⟨middle, trail', hfirst, h⟩ := (rounds_searches hs least).sound h
      obtain ⟨done, hdone, stop, trail'', hrest, hgo⟩ := manyRounds_sound hs h
      exact ⟨stop, trail'', hjoin hfirst hdone hrest, hgo⟩
    | lazy =>
      obtain ⟨middle, trail', hfirst, h⟩ := (rounds_searches hs least).sound h
      obtain ⟨done, hdone, stop, trail'', hrest, hgo⟩ := fewRounds_sound hs h
      exact ⟨stop, trail'', hjoin hfirst hdone hrest, hgo⟩
    | possessive => exact absurd rfl hgreed
  complete := by
    intro position stop go hrepeats hgo trail
    obtain ⟨middle, hfirst, fewer, hfewer, hmoving⟩ := hrepeats.exists_moving hforward
    unfold repeatedOf
    cases greed with
    | greedy =>
      have hbeyond : Continue.Accepts (fun position trail =>
          manyRounds step go (roundsLeft text more position) none position trail) middle :=
        manyRounds_complete hs hfewer nofun hmoving hgo
      exact (rounds_searches hs least).complete hfirst hbeyond trail
    | lazy =>
      have hbeyond : Continue.Accepts (fun position trail =>
          fewRounds step go inRounds (roundsLeft text more position) none position trail) middle :=
        fewRounds_complete hs hfewer nofun hmoving hgo
      exact (rounds_searches hs least).complete hfirst hbeyond trail
    | possessive => exact absurd rfl hgreed

/-! ### Whole patterns -/

/-- Where nothing follows, the step succeeds just in front of a stretch. -/
theorem Step.Searches.succeeds_finish_iff {step : Step} {spans : Nat → Nat → Prop}
    (hs : step.Searches spans) (position : Nat) (trail : Trail) :
    (step position trail finish).Succeeds ↔ ∃ stop, spans position stop := by
  constructor
  · rintro ⟨found, hfound⟩
    obtain ⟨stop, -, hspans, -⟩ := hs.sound hfound
    exact ⟨stop, hspans⟩
  · rintro ⟨stop, hspans⟩
    exact hs.complete hspans (finish_accepts stop) trail

/-- A look-around tells whether there is a stretch to be found, and moves nowhere. -/
theorem look_searches (text : Array Char) {body : Node} {inRounds : Bool}
    (hbody : Step.Searches (body.run text inRounds) (body.Spans text)) (back : Nat)
    (negated : Bool) :
    Step.Searches ((Node.look back negated body).run text inRounds)
      ((Node.look back negated body).Spans text) where
  sound := by
    intro position trail go found h
    have htold := hbody.succeeds_finish_iff (position - back) (trail.pausedAt (position - back))
    simp only [Node.run] at h
    split at h
    · next hback =>
      split at h
      · next hnegated =>
        exact ⟨position, _, ⟨rfl, iff_of_false (by omega) (by simp [hnegated])⟩, h⟩
      · cases h
    · next hback =>
      split at h
      · next hrun =>
        rw [hrun] at htold
        exact ⟨position, _, ⟨rfl, iff_of_true ⟨by omega, htold.1 ⟨_, rfl⟩⟩ rfl⟩, h⟩
      · cases h
      · cases h
      · next hrun =>
        rw [hrun] at htold
        have hnone := fun hlast => Outcome.not_succeeds_failed _ (htold.2 hlast)
        exact ⟨position, _, ⟨rfl, iff_of_false (fun hlook => hnone hlook.2) Bool.noConfusion⟩, h⟩
  complete := by
    rintro _ stop go ⟨rfl, hlook⟩ hgo trail
    have htold := hbody.succeeds_finish_iff (stop - back) (trail.pausedAt (stop - back))
    simp only [Node.run]
    split
    · next hback =>
      cases negated with
      | false =>
        have := (hlook.2 rfl).1
        omega
      | true => exact hgo trail
    · next hback =>
      split
      · exact hgo _
      · next hrun =>
        rw [hrun] at htold
        cases hlook.1 ⟨by omega, htold.1 ⟨_, rfl⟩⟩
      · next hrun =>
        rw [hrun] at htold
        exact absurd (htold.2 (hlook.2 rfl).2) (Outcome.not_succeeds_failed _)
      · exact hgo _

/-- Trying misses nothing: the matcher finds its way along just those stretches that a regular
pattern spans. -/
theorem Node.run_searches (text : Array Char) {node : Node} (h : node.isRegular = true)
    (inRounds : Bool) : Step.Searches (node.run text inRounds) (node.Spans text) := by
  induction node generalizing inRounds with
  | empty =>
    constructor
    · intro position trail go found h
      exact ⟨_, _, rfl, h⟩
    · rintro position _ go rfl hgo trail
      exact hgo trail
  | never => exact ⟨nofun, nofun⟩
  | char test =>
    constructor
    · intro position trail go found h
      simp only [Node.run] at h
      split at h
      · next hholds => exact ⟨_, _, ⟨hholds, rfl⟩, h⟩
      · cases h
    · rintro position _ go ⟨hholds, rfl⟩ hgo trail
      simp only [Node.run]
      rw [if_pos hholds]
      exact hgo trail
  | anchor a =>
    constructor
    · intro position trail go found h
      simp only [Node.run] at h
      split at h
      · next hholds => exact ⟨_, _, ⟨hholds, rfl⟩, h⟩
      · cases h
    · rintro position _ go ⟨hholds, rfl⟩ hgo trail
      simp only [Node.run]
      rw [if_pos hholds]
      exact hgo trail
  | seq a b iha ihb =>
    obtain ⟨ha, hb⟩ := Bool.and_eq_true_iff.1 h
    constructor
    · intro position trail go found h
      obtain ⟨middle, trail', hspans, h⟩ := (iha ha inRounds).sound h
      obtain ⟨stop, trail'', hspans', h⟩ := (ihb hb inRounds).sound h
      exact ⟨stop, trail'', ⟨middle, hspans, hspans'⟩, h⟩
    · rintro position stop go ⟨middle, hspans, hspans'⟩ hgo trail
      exact (iha ha inRounds).complete hspans
        (fun trail' => (ihb hb inRounds).complete hspans' hgo trail') trail
  | either opening a b iha ihb =>
    obtain ⟨ha, hb⟩ := Bool.and_eq_true_iff.1 h
    constructor
    · intro position trail go found h
      have hsecond : ∀ {trail}, b.run text inRounds position trail go = .matched found →
          ∃ stop trail', (Node.either opening a b).Spans text position stop ∧
            go stop trail' = .matched found := by
        intro trail h
        obtain ⟨stop, trail', hspans, h⟩ := (ihb hb inRounds).sound h
        exact ⟨stop, trail', .inr hspans, h⟩
      simp only [Node.run] at h
      split at h
      · next hopening =>
        rcases Outcome.orElse_eq_matched.1 h with h | ⟨left, -, h⟩
        · obtain ⟨stop, trail', hspans, h⟩ := (iha ha inRounds).sound h
          exact ⟨stop, trail', .inl ⟨hopening, hspans⟩, h⟩
        · exact hsecond h
      · exact hsecond h
    · intro position stop go hspans hgo trail
      simp only [Node.run]
      rcases hspans with ⟨hopening, hspans⟩ | hspans
      · rw [if_pos hopening]
        exact ((iha ha inRounds).complete hspans hgo _).orElse _
      · have hsecond := (ihb hb inRounds).complete hspans hgo
        split
        · exact Outcome.succeeds_orElse _ fun left => hsecond _
        · exact hsecond trail
  | stretch greed least more test next =>
    exact stretchOf_searches text inRounds (by simpa [isRegular] using h) least more test next
  | repeated greed least more body ih =>
    obtain ⟨hgreed, hbody⟩ := Bool.and_eq_true_iff.1 h
    exact repeatedOf_searches text (ih hbody _) (body.forward_spans text) inRounds
      (by simpa using hgreed) least more
  | group index body ih =>
    have hbody := ih h inRounds
    constructor
    · intro position trail go found h
      obtain ⟨stop, trail', hspans, h⟩ := hbody.sound h
      exact ⟨stop, _, hspans, h⟩
    · intro position stop go hspans hgo trail
      have hclose : Continue.Accepts (fun position trail =>
          go position (trail.closeGroup index position)) stop := fun trail' => hgo _
      exact hbody.complete hspans hclose _
  | sameAs index rule => cases h
  | look back negated body ih => exact look_searches text (ih h inRounds) back negated
  | atomic body ih => cases h
  | ifGroup index yes no ihy ihn => cases h

end SourceAudit.Pattern
