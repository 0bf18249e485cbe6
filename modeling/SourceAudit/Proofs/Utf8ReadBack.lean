-- What is written in UTF-8 is read back. Each of the four lengths of a character has its step of
-- the reader, and so no two texts are written with the same bytes.

import SourceAudit.Text.Utf8

namespace SourceAudit.Text

/-! ## Bytes as numbers -/

theorem isContinuation_iff {b : UInt8} :
    isContinuation b = true ↔ 0x80 ≤ b.toNat ∧ b.toNat ≤ 0xBF := by
  simp [isContinuation, UInt8.le_iff_toNat_le]

theorem secondFits_iff {a b : UInt8} : secondFits a b = true ↔
    (0x80 ≤ b.toNat ∧ b.toNat ≤ 0xBF) ∧ (a.toNat = 0xE0 → 0xA0 ≤ b.toNat) ∧
      (a.toNat = 0xED → b.toNat ≤ 0x9F) ∧ (a.toNat = 0xF0 → 0x90 ≤ b.toNat) ∧
      (a.toNat = 0xF4 → b.toNat ≤ 0x8F) := by
  simp only [secondFits, isContinuation, beq_iff_eq, ← UInt8.toNat_inj, UInt8.le_iff_toNat_le,
    UInt8.reduceToNat]
  grind

/-- No character is a surrogate, and none lies beyond the last one. -/
theorem toNat_range (c : Char) : c.toNat < 0xD800 ∨ 0xDFFF < c.toNat ∧ c.toNat < 0x110000 :=
  c.valid

/-! ## One character -/

section Steps

variable {a b c d : UInt8} (done : List Char) (position : Nat) (rest : List UInt8)

theorem readUtf8From_one (ha : a.toNat < 0x80) :
    readUtf8From done position (a :: rest) =
      readUtf8From (Char.ofNat a.toNat :: done) (position + 1) rest := by
  have hlow : a < 0x80 := UInt8.lt_iff_toNat_lt.2 ha
  rw [readUtf8From.eq_def]
  simp [hlow]

theorem readUtf8From_two (ha : 0xC2 ≤ a.toNat) (hlast : a.toNat < 0xE0)
    (hb : secondFits a b = true) :
    readUtf8From done position (a :: b :: rest) =
      readUtf8From (Char.ofNat (a.toNat % 32 * 64 + payloadBits b) :: done) (position + 2) rest := by
  have hhigh : ¬a.toNat < 0x80 := by omega
  have hfirst : ¬a.toNat < 0xC2 ∧ ¬0xF5 ≤ a.toNat := by omega
  rw [readUtf8From.eq_def]
  simp [UInt8.lt_iff_toNat_lt, UInt8.le_iff_toNat_le, hhigh, hfirst, hlast, hb]

theorem readUtf8From_three (ha : 0xE0 ≤ a.toNat) (hlast : a.toNat < 0xF0)
    (hb : secondFits a b = true) (hc : isContinuation c = true) :
    readUtf8From done position (a :: b :: c :: rest) =
      readUtf8From (Char.ofNat (a.toNat % 16 * 4096 + payloadBits b * 64 + payloadBits c) :: done)
        (position + 3) rest := by
  have hhigh : ¬a.toNat < 0x80 ∧ ¬a.toNat < 0xE0 := by omega
  have hfirst : ¬a.toNat < 0xC2 ∧ ¬0xF5 ≤ a.toNat := by omega
  rw [readUtf8From.eq_def]
  simp [UInt8.lt_iff_toNat_lt, UInt8.le_iff_toNat_le, hhigh, hfirst, hlast, hb, hc]

theorem readUtf8From_four (ha : 0xF0 ≤ a.toNat) (hlast : a.toNat < 0xF5)
    (hb : secondFits a b = true) (hc : isContinuation c = true) (hd : isContinuation d = true) :
    readUtf8From done position (a :: b :: c :: d :: rest) =
      readUtf8From (Char.ofNat (a.toNat % 8 * 262144 + payloadBits b * 4096 + payloadBits c * 64 +
        payloadBits d) :: done) (position + 4) rest := by
  have hhigh : ¬a.toNat < 0x80 ∧ ¬a.toNat < 0xE0 ∧ ¬a.toNat < 0xF0 := by omega
  have hfirst : ¬a.toNat < 0xC2 ∧ ¬0xF5 ≤ a.toNat := by omega
  rw [readUtf8From.eq_def]
  simp [UInt8.lt_iff_toNat_lt, UInt8.le_iff_toNat_le, hhigh, hfirst, hb, hc, hd]

end Steps

/-- Behind the bytes of a character the reader has read just that character. -/
theorem readUtf8From_utf8Char (c : Char) (done : List Char) (position : Nat) (rest : List UInt8) :
    readUtf8From done position (utf8Char c ++ rest) =
      readUtf8From (c :: done) (position + (utf8Char c).length) rest := by
  have hrange := toNat_range c
  have hbyte : ∀ n < 256, (UInt8.ofNat n).toNat = n := fun n h => UInt8.toNat_ofNat_of_lt h
  have hlow : ∀ n, (UInt8.ofNat (0x80 + n % 64)).toNat = 0x80 + n % 64 := fun n =>
    hbyte _ (by omega)
  have hnext : ∀ n, isContinuation (UInt8.ofNat (0x80 + n % 64)) = true := fun n => by
    rw [isContinuation_iff, hlow]
    omega
  have hbits : ∀ n, payloadBits (UInt8.ofNat (0x80 + n % 64)) = n % 64 := fun n => by
    rw [payloadBits, hlow]
    omega
  by_cases hone : c.toNat < 0x80
  · have ha := hbyte c.toNat (by omega)
    simp only [utf8Char, if_pos hone, List.cons_append, List.nil_append]
    rw [readUtf8From_one _ _ _ (by omega), ha, Char.ofNat_toNat]
    rfl
  by_cases htwo : c.toNat < 0x800
  · have ha := hbyte (0xC0 + c.toNat / 64) (by omega)
    have hb : secondFits (UInt8.ofNat (0xC0 + c.toNat / 64))
        (UInt8.ofNat (0x80 + c.toNat % 64)) = true := by
      rw [secondFits_iff, ha, hlow]
      omega
    have hpoint : (0xC0 + c.toNat / 64) % 32 * 64 + c.toNat % 64 = c.toNat := by omega
    simp only [utf8Char, if_neg hone, if_pos htwo, List.cons_append, List.nil_append]
    rw [readUtf8From_two _ _ _ (by omega) (by omega) hb, ha, hbits, hpoint, Char.ofNat_toNat]
    rfl
  by_cases hthree : c.toNat < 0x10000
  · have ha := hbyte (0xE0 + c.toNat / 4096) (by omega)
    have hb : secondFits (UInt8.ofNat (0xE0 + c.toNat / 4096))
        (UInt8.ofNat (0x80 + c.toNat / 64 % 64)) = true := by
      rw [secondFits_iff, ha, hlow]
      omega
    have hpoint : (0xE0 + c.toNat / 4096) % 16 * 4096 + c.toNat / 64 % 64 * 64 + c.toNat % 64 =
        c.toNat := by omega
    simp only [utf8Char, if_neg hone, if_neg htwo, if_pos hthree, List.cons_append,
      List.nil_append]
    rw [readUtf8From_three _ _ _ (by omega) (by omega) hb (hnext _), ha, hbits, hbits, hpoint,
      Char.ofNat_toNat]
    rfl
  · have ha := hbyte (0xF0 + c.toNat / 262144) (by omega)
    have hb : secondFits (UInt8.ofNat (0xF0 + c.toNat / 262144))
        (UInt8.ofNat (0x80 + c.toNat / 4096 % 64)) = true := by
      rw [secondFits_iff, ha, hlow]
      omega
    have hpoint : (0xF0 + c.toNat / 262144) % 8 * 262144 + c.toNat / 4096 % 64 * 4096 +
        c.toNat / 64 % 64 * 64 + c.toNat % 64 = c.toNat := by omega
    simp only [utf8Char, if_neg hone, if_neg htwo, if_neg hthree, List.cons_append,
      List.nil_append]
    rw [readUtf8From_four _ _ _ (by omega) (by omega) hb (hnext _) (hnext _), ha, hbits, hbits,
      hbits, hpoint, Char.ofNat_toNat]
    rfl

/-! ## A whole text -/

theorem utf8_append (first second : List Char) :
    utf8 (first ++ second) = utf8 first ++ utf8 second :=
  List.flatMap_append

/-- The bytes of a text in front of others are read as that text. -/
theorem readUtf8From_utf8 (text done : List Char) (position : Nat) (rest : List UInt8) :
    readUtf8From done position (utf8 text ++ rest) =
      readUtf8From (text.reverse ++ done) (position + (utf8 text).length) rest := by
  induction text generalizing done position with
  | nil => rfl
  | cons c text ih =>
    have hcons : utf8 (c :: text) = utf8Char c ++ utf8 text := rfl
    rw [hcons, List.append_assoc, readUtf8From_utf8Char, ih, List.length_append, Nat.add_assoc]
    simp

/-- What is written is read back. -/
theorem readUtf8_utf8 (text : List Char) : readUtf8 (utf8 text) = .ok text := by
  have h := readUtf8From_utf8 text [] 0 []
  rw [List.append_nil, List.append_nil] at h
  rw [readUtf8, h, readUtf8From.eq_def]
  simp

theorem utf8_injective {first second : List Char} (h : utf8 first = utf8 second) :
    first = second := by
  have hread := readUtf8_utf8 first
  rw [h, readUtf8_utf8] at hread
  exact (Except.ok.inj hread).symm

end SourceAudit.Text
