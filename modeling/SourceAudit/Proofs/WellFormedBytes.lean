-- Which bytes are UTF-8, told without the reader. A sequence begins with a byte that announces how
-- many there are; it is well-formed if it is complete, no longer than its number needs, and if its
-- number is that of a character. The reader takes just the bytes that consist of such sequences,
-- and what it takes is written with these bytes again; it stops behind the longest stretch of them.

import SourceAudit.Proofs.Utf8ReadBack
import Mathlib.Order.Bounds.Basic

namespace SourceAudit.Text

/-! ## Well-formed bytes -/

/-- A byte that stands behind the first one of a sequence: its two high bits are one and zero. -/
def IsFollower (b : UInt8) : Prop :=
  0x80 ≤ b.toNat ∧ b.toNat < 0xC0

/-- The bytes of a sequence as the first of them announces it, with the number that their free bits
make and the least number that needs so many bytes. -/
inductive Announced : List UInt8 → (number least : Nat) → Prop
  | one {a : UInt8} : a.toNat < 0x80 → Announced [a] a.toNat 0
  | two {a b : UInt8} : 0xC0 ≤ a.toNat → a.toNat < 0xE0 → IsFollower b →
      Announced [a, b] (a.toNat % 32 * 64 + b.toNat % 64) 0x80
  | three {a b c : UInt8} : 0xE0 ≤ a.toNat → a.toNat < 0xF0 → IsFollower b → IsFollower c →
      Announced [a, b, c] (a.toNat % 16 * 4096 + b.toNat % 64 * 64 + c.toNat % 64) 0x800
  | four {a b c d : UInt8} : 0xF0 ≤ a.toNat → a.toNat < 0xF8 → IsFollower b → IsFollower c →
      IsFollower d →
      Announced [a, b, c, d] (a.toNat % 8 * 262144 + b.toNat % 64 * 4096 + c.toNat % 64 * 64 +
        d.toNat % 64) 0x10000

/-- A complete sequence that is not overlong and whose number is neither a surrogate nor beyond the
last code point. -/
def IsSequence (bytes : List UInt8) : Prop :=
  ∃ number least, Announced bytes number least ∧ least ≤ number ∧
    ¬(0xD800 ≤ number ∧ number ≤ 0xDFFF) ∧ number ≤ 0x10FFFF

theorem IsSequence.length_pos {bytes : List UInt8} (h : IsSequence bytes) : 0 < bytes.length := by
  obtain ⟨number, least, h, -⟩ := h
  cases h <;> exact Nat.succ_pos _

/-- Bytes that consist of complete sequences. -/
inductive WellFormed : List UInt8 → Prop
  | nil : WellFormed []
  | cons {bytes rest : List UInt8} : IsSequence bytes → WellFormed rest → WellFormed (bytes ++ rest)

/-! ## Sequences are characters -/

theorem isContinuation_iff_isFollower {b : UInt8} : isContinuation b = true ↔ IsFollower b := by
  rw [isContinuation_iff, IsFollower]
  omega

theorem eq_ofNat_of_toNat {b : UInt8} {n : Nat} (h : b.toNat = n) : b = UInt8.ofNat n := by
  rw [← h, UInt8.ofNat_toNat]

/-- The bytes of a sequence are those that its character is written with. -/
theorem Announced.eq_utf8Char {bytes : List UInt8} {least : Nat} {c : Char}
    (h : Announced bytes c.toNat least) (hleast : least ≤ c.toNat) : bytes = utf8Char c := by
  have hrange := toNat_range c
  generalize hn : c.toNat = n at h hleast hrange
  unfold utf8Char
  rw [hn]
  dsimp only
  cases h with
  | one ha => rw [if_pos ha, UInt8.ofNat_toNat]
  | two ha hlast hb =>
    unfold IsFollower at hb
    rw [if_neg (by omega), if_pos (by omega)]
    simp only [List.cons.injEq, and_true]
    exact ⟨eq_ofNat_of_toNat (by omega), eq_ofNat_of_toNat (by omega)⟩
  | three ha hlast hb hc =>
    unfold IsFollower at hb hc
    rw [if_neg (by omega), if_neg (by omega), if_pos (by omega)]
    simp only [List.cons.injEq, and_true]
    exact ⟨eq_ofNat_of_toNat (by omega), eq_ofNat_of_toNat (by omega),
      eq_ofNat_of_toNat (by omega)⟩
  | four ha hlast hb hc hd =>
    unfold IsFollower at hb hc hd
    rw [if_neg (by omega), if_neg (by omega), if_neg (by omega)]
    simp only [List.cons.injEq, and_true]
    exact ⟨eq_ofNat_of_toNat (by omega), eq_ofNat_of_toNat (by omega),
      eq_ofNat_of_toNat (by omega), eq_ofNat_of_toNat (by omega)⟩

/-- Every character is written as a sequence. -/
theorem isSequence_utf8Char (c : Char) : IsSequence (utf8Char c) := by
  have hrange := toNat_range c
  have hbyte : ∀ n < 256, (UInt8.ofNat n).toNat = n := fun n h => UInt8.toNat_ofNat_of_lt h
  have hfollows : ∀ n, IsFollower (UInt8.ofNat (0x80 + n % 64)) := fun n => by
    rw [IsFollower, hbyte _ (by omega)]
    omega
  have hlow : ∀ n, (UInt8.ofNat (0x80 + n % 64)).toNat % 64 = n % 64 := fun n => by
    rw [hbyte _ (by omega)]
    omega
  -- whatever form is chosen, its number is that of the character
  have hchosen : ∀ {bytes number least}, Announced bytes number least → number = c.toNat →
      least ≤ c.toNat → IsSequence bytes := by
    rintro bytes _ least h rfl hleast
    exact ⟨c.toNat, least, h, hleast, by omega, by omega⟩
  unfold utf8Char
  dsimp only
  by_cases hone : c.toNat < 0x80
  · rw [if_pos hone]
    have ha := hbyte c.toNat (by omega)
    exact hchosen (.one (by omega)) ha (Nat.zero_le _)
  by_cases htwo : c.toNat < 0x800
  · rw [if_neg hone, if_pos htwo]
    have ha := hbyte (0xC0 + c.toNat / 64) (by omega)
    refine hchosen (.two (by omega) (by omega) (hfollows _)) ?_ (by omega)
    rw [ha, hlow]
    omega
  by_cases hthree : c.toNat < 0x10000
  · rw [if_neg hone, if_neg htwo, if_pos hthree]
    have ha := hbyte (0xE0 + c.toNat / 4096) (by omega)
    refine hchosen (.three (by omega) (by omega) (hfollows _) (hfollows _)) ?_ (by omega)
    rw [ha, hlow, hlow]
    omega
  · rw [if_neg hone, if_neg htwo, if_neg hthree]
    have ha := hbyte (0xF0 + c.toNat / 262144) (by omega)
    refine hchosen (.four (by omega) (by omega) (hfollows _) (hfollows _) (hfollows _)) ?_
      (by omega)
    rw [ha, hlow, hlow, hlow]
    omega

/-- The sequences are what characters are written with. -/
theorem isSequence_iff {bytes : List UInt8} : IsSequence bytes ↔ ∃ c, bytes = utf8Char c := by
  constructor
  · rintro ⟨number, least, h, hleast, hsurrogate, hlast⟩
    have hvalid : number.isValidChar := by
      unfold Nat.isValidChar
      omega
    have hnumber : (Char.ofNatAux number hvalid).toNat = number := rfl
    rw [← hnumber] at h hleast
    exact ⟨_, h.eq_utf8Char hleast⟩
  · rintro ⟨c, rfl⟩
    exact isSequence_utf8Char c

/-- Well-formed bytes are what texts are written with. -/
theorem wellFormed_iff {bytes : List UInt8} : WellFormed bytes ↔ ∃ text, bytes = utf8 text := by
  constructor
  · intro h
    induction h with
    | nil => exact ⟨[], rfl⟩
    | cons hbytes _ ih =>
      obtain ⟨c, rfl⟩ := isSequence_iff.1 hbytes
      obtain ⟨text, rfl⟩ := ih
      exact ⟨c :: text, rfl⟩
  · rintro ⟨text, rfl⟩
    induction text with
    | nil => exact .nil
    | cons c text ih => exact .cons (isSequence_utf8Char c) ih

/-! ## What the reader takes -/

section Taken

variable {a b c d : UInt8}

theorem isSequence_one (ha : a.toNat < 0x80) : IsSequence [a] :=
  ⟨_, _, .one ha, Nat.zero_le _, by omega, by omega⟩

theorem isSequence_two (ha : 0xC2 ≤ a.toNat) (hlast : a.toNat < 0xE0)
    (hb : secondFits a b = true) : IsSequence [a, b] := by
  obtain ⟨hb, -⟩ := secondFits_iff.1 hb
  exact ⟨_, _, .two (by omega) hlast ⟨hb.1, by omega⟩, by omega, by omega, by omega⟩

theorem isSequence_three (ha : 0xE0 ≤ a.toNat) (hlast : a.toNat < 0xF0)
    (hb : secondFits a b = true) (hc : isContinuation c = true) : IsSequence [a, b, c] := by
  obtain ⟨hb, hshort, hsurrogate, -⟩ := secondFits_iff.1 hb
  exact ⟨_, _, .three ha hlast ⟨hb.1, by omega⟩ (isContinuation_iff_isFollower.1 hc), by omega,
    by omega, by omega⟩

theorem isSequence_four (ha : 0xF0 ≤ a.toNat) (hlast : a.toNat < 0xF5)
    (hb : secondFits a b = true) (hc : isContinuation c = true) (hd : isContinuation d = true) :
    IsSequence [a, b, c, d] := by
  obtain ⟨hb, -, -, hshort, hbeyond⟩ := secondFits_iff.1 hb
  exact ⟨_, _, .four ha (by omega) ⟨hb.1, by omega⟩ (isContinuation_iff_isFollower.1 hc)
    (isContinuation_iff_isFollower.1 hd), by omega, by omega, by omega⟩

end Taken

/-- Where no sequence begins, the reader stops. -/
theorem readUtf8From_stops {bytes : List UInt8} (hsome : bytes ≠ [])
    (hnone : ∀ sequence rest, IsSequence sequence → bytes ≠ sequence ++ rest) (done : List Char)
    (position : Nat) :
    ∃ fault, readUtf8From done position bytes = .error fault ∧ fault.position = position := by
  have hlead : ∀ {a : UInt8}, ¬(decide (a < 0xC2) || decide (0xF5 ≤ a)) = true →
      0xC2 ≤ a.toNat ∧ a.toNat < 0xF5 := fun h => by
    simpa [UInt8.lt_iff_toNat_lt, UInt8.le_iff_toNat_le] using h
  have hfits : ∀ {p : Bool}, ¬(!p) = true → p = true := fun h => by simpa using h
  fun_cases readUtf8From done position bytes with
  | case1 => exact absurd rfl hsome
  | case2 a rest ha =>
    exact absurd rfl (hnone [a] rest (isSequence_one (UInt8.lt_iff_toNat_lt.1 ha)))
  | case6 a _ ha b rest hb htwo =>
    have htwo : a.toNat < 0xE0 := UInt8.lt_iff_toNat_lt.1 htwo
    exact absurd rfl (hnone [a, b] rest (isSequence_two (hlead ha).1 htwo (hfits hb)))
  | case9 a _ ha b hb htwo c rest hc hthree =>
    have htwo : 0xE0 ≤ a.toNat := UInt8.le_iff_toNat_le.1 (UInt8.not_lt.1 htwo)
    have hthree : a.toNat < 0xF0 := UInt8.lt_iff_toNat_lt.1 hthree
    exact absurd rfl (hnone [a, b, c] rest (isSequence_three htwo hthree (hfits hb) (hfits hc)))
  | case12 a _ ha b hb _ c hc hthree d rest hd =>
    have hthree : 0xF0 ≤ a.toNat := UInt8.le_iff_toNat_le.1 (UInt8.not_lt.1 hthree)
    exact absurd rfl (hnone [a, b, c, d] rest
      (isSequence_four hthree (hlead ha).2 (hfits hb) (hfits hc) (hfits hd)))
  | _ => exact ⟨_, rfl, rfl⟩

/-- All bytes consist of the bytes of a text and of a rest in which no sequence begins. -/
theorem exists_text_append (bytes : List UInt8) : ∃ text rest, bytes = utf8 text ++ rest ∧
    ∀ sequence more, IsSequence sequence → rest ≠ sequence ++ more := by
  by_cases h : ∃ sequence more, IsSequence sequence ∧ bytes = sequence ++ more
  · obtain ⟨sequence, more, hsequence, hsplit⟩ := h
    obtain ⟨c, rfl⟩ := isSequence_iff.1 hsequence
    have hshorter : more.length < bytes.length := by
      rw [hsplit, List.length_append]
      exact Nat.lt_add_of_pos_left hsequence.length_pos
    obtain ⟨text, rest, rfl, hrest⟩ := exists_text_append more
    refine ⟨c :: text, rest, ?_, hrest⟩
    rw [hsplit, ← List.append_assoc]
    rfl
  · refine ⟨[], bytes, rfl, fun sequence more hsequence hsplit => ?_⟩
    exact h ⟨sequence, more, hsequence, hsplit⟩
termination_by bytes.length

/-- The bytes of a text in front of a rest in which no sequence begins: the reader takes the text
and stops behind it, unless there is nothing more. -/
theorem readUtf8From_text {rest : List UInt8}
    (hrest : ∀ sequence more, IsSequence sequence → rest ≠ sequence ++ more) (text done : List Char)
    (position : Nat) :
    rest = [] ∧ readUtf8From done position (utf8 text ++ rest) = .ok (done.reverse ++ text) ∨
      ∃ fault, readUtf8From done position (utf8 text ++ rest) = .error fault ∧
        fault.position = position + (utf8 text).length := by
  rw [readUtf8From_utf8]
  cases rest with
  | nil =>
    rw [readUtf8From.eq_def]
    exact .inl ⟨rfl, by simp⟩
  | cons b rest => exact .inr (readUtf8From_stops (List.cons_ne_nil b rest) hrest _ _)

/-- The reader gives a text just for the bytes that the text is written with. -/
theorem readUtf8_eq_ok_iff {bytes : List UInt8} {text : List Char} :
    readUtf8 bytes = .ok text ↔ utf8 text = bytes := by
  constructor
  · intro h
    obtain ⟨taken, rest, rfl, hrest⟩ := exists_text_append bytes
    rcases readUtf8From_text hrest taken [] 0 with ⟨rfl, hok⟩ | ⟨fault, herror, -⟩
    · rw [readUtf8, hok] at h
      cases h
      simp
    · rw [readUtf8, herror] at h
      cases h
  · rintro rfl
    exact readUtf8_utf8 text

theorem le_position_of_readUtf8From {bytes : List UInt8} {done : List Char} {position : Nat}
    {fault : Utf8Fault} (h : readUtf8From done position bytes = .error fault) :
    position ≤ fault.position := by
  obtain ⟨text, rest, rfl, hrest⟩ := exists_text_append bytes
  rcases readUtf8From_text hrest text done position with ⟨-, hok⟩ | ⟨other, herror, hposition⟩
  · rw [hok] at h
    cases h
  · rw [herror] at h
    cases h
    omega

/-- The lengths of the well-formed stretches that some bytes begin with. -/
def wellFormedLengths (bytes : List UInt8) : Set Nat :=
  {length | ∃ front, front <+: bytes ∧ WellFormed front ∧ front.length = length}

/-- The reader stops behind the longest well-formed stretch. -/
theorem isGreatest_position {bytes : List UInt8} {fault : Utf8Fault}
    (h : readUtf8 bytes = .error fault) :
    IsGreatest (wellFormedLengths bytes) fault.position := by
  constructor
  · obtain ⟨text, rest, rfl, hrest⟩ := exists_text_append bytes
    rcases readUtf8From_text hrest text [] 0 with ⟨-, hok⟩ | ⟨other, herror, hposition⟩
    · rw [readUtf8, hok] at h
      cases h
    · rw [readUtf8, herror] at h
      cases h
      refine ⟨utf8 text, List.prefix_append _ _, wellFormed_iff.2 ⟨text, rfl⟩, ?_⟩
      rw [hposition, Nat.zero_add]
  · -- behind any well-formed stretch the reader is still to come to its stop
    rintro _ ⟨front, ⟨behind, rfl⟩, hfront, rfl⟩
    obtain ⟨text, rfl⟩ := wellFormed_iff.1 hfront
    rw [readUtf8, readUtf8From_utf8, Nat.zero_add] at h
    exact le_position_of_readUtf8From h

end SourceAudit.Text
