-- Texts of code points beside texts of characters. A text of characters is a text of code points,
-- and only that one is read back as it; a text of code points in which a surrogate stands is the
-- text of no characters.

import SourceAudit.Text.WideText

namespace SourceAudit

open SourceAudit.Text

/-! ## Code points -/

namespace Text

theorem CodePoint.val_ofChar (c : Char) : (CodePoint.ofChar c).val = c.toNat := by
  have hvalid : c.toNat < 0xD800 ∨ 0xDFFF < c.toNat ∧ c.toNat < 0x110000 := c.valid
  have hmod : c.toNat % 0x110000 = c.toNat := Nat.mod_eq_of_lt (by omega)
  unfold ofChar
  rw [Fin.val_ofNat, hmod]

/-- A character is never a half of another one. -/
theorem CodePoint.isSurrogate_ofChar (c : Char) : (ofChar c).isSurrogate = false := by
  have hvalid : c.toNat < 0xD800 ∨ 0xDFFF < c.toNat ∧ c.toNat < 0x110000 := c.valid
  simp only [isSurrogate, val_ofChar, Bool.and_eq_false_iff, decide_eq_false_iff_not]
  omega

theorem CodePoint.toChar?_ofChar (c : Char) : (ofChar c).toChar? = some c := by
  rw [toChar?, isSurrogate_ofChar, val_ofChar, Char.ofNat_toNat]
  rfl

theorem CodePoint.ofChar_inj {c d : Char} : ofChar c = ofChar d ↔ c = d := by
  refine ⟨fun h => ?_, congrArg ofChar⟩
  have hsame := congrArg toChar? h
  rw [toChar?_ofChar, toChar?_ofChar] at hsame
  exact Option.some.inj hsame

theorem CodePoint.isBlank_ofChar (c : Char) : (ofChar c).isBlank = Text.isBlank c := by
  rw [isBlank, val_ofChar, Text.isBlank]

/-- A code point that is no surrogate is that of a character. -/
theorem CodePoint.ofChar_ofNat {p : CodePoint} (h : p.isSurrogate = false) :
    ofChar (Char.ofNat p.val) = p := by
  have hvalid : p.val.isValidChar := by
    simp only [isSurrogate, Bool.and_eq_false_iff, decide_eq_false_iff_not] at h
    have hlast := p.isLt
    unfold Nat.isValidChar
    omega
  have hnumber : (Char.ofNatAux p.val hvalid).toNat = p.val := rfl
  rw [Char.ofNat, dif_pos hvalid]
  exact Fin.ext ((val_ofChar _).trans hnumber)

theorem findSurrogate_eq_none_iff (position : Nat) {points : List CodePoint} :
    findSurrogate position points = none ↔ ∀ p ∈ points, p.isSurrogate = false := by
  induction points generalizing position with
  | nil => simp [findSurrogate]
  | cons p rest ih =>
    rw [findSurrogate, List.forall_mem_cons]
    cases hp : p.isSurrogate with
    | true => simp
    | false => simp [ih]

/-- Code points are read as the characters whose code points they are. -/
theorem readCodePoints_eq_ok_iff {points : List CodePoint} {cs : List Char} :
    readCodePoints points = .ok cs ↔ cs.map CodePoint.ofChar = points := by
  constructor
  · intro h
    unfold readCodePoints at h
    split at h
    · cases h
    · next hnone =>
      cases h
      rw [findSurrogate_eq_none_iff] at hnone
      rw [List.map_map]
      calc points.map (CodePoint.ofChar ∘ fun p => Char.ofNat p.val)
        _ = points.map id := List.map_congr_left fun p hp => CodePoint.ofChar_ofNat (hnone p hp)
        _ = points := List.map_id points
  · rintro rfl
    have hnone : findSurrogate 0 (cs.map CodePoint.ofChar) = none :=
      (findSurrogate_eq_none_iff 0).2 (List.forall_mem_map.2 fun c _ =>
        CodePoint.isSurrogate_ofChar c)
    unfold readCodePoints
    rw [hnone]
    simp only [List.map_map, Function.comp_def, CodePoint.val_ofChar, Char.ofNat_toNat,
      List.map_id']

theorem exists_readCodePoints_iff {points : List CodePoint} :
    (∃ cs, readCodePoints points = .ok cs) ↔ ∀ p ∈ points, p.isSurrogate = false := by
  rw [← findSurrogate_eq_none_iff 0]
  unfold readCodePoints
  cases findSurrogate 0 points <;> simp

end Text

namespace WideText

/-! ## Texts of characters -/

theorem ofString_append (a b : String) : ofString (a ++ b) = ofString a ++ ofString b := by
  change WideText.mk _ = WideText.mk _
  rw [String.toList_append, List.map_append]
  rfl

theorem points_append (a b : WideText) : (a ++ b).points = a.points ++ b.points := rfl

theorem append_assoc (a b c : WideText) : a ++ b ++ c = a ++ (b ++ c) :=
  congrArg mk (List.append_assoc _ _ _)

theorem append_empty (text : WideText) : text ++ ofString "" = text :=
  congrArg mk (List.append_nil _)

theorem intercalate_cons_cons (separator first second : WideText) (rest : List WideText) :
    intercalate separator (first :: second :: rest) =
      first ++ (separator ++ intercalate separator (second :: rest)) := by
  apply congrArg mk
  rw [List.map_cons, List.map_cons, List.intercalate_cons_cons, List.append_assoc]
  rfl

/-- The characters of a text are those of which it is the text. -/
theorem text?_eq_some_iff {text : WideText} {s : String} :
    text.text? = some s ↔ text = ofString s := by
  unfold text?
  constructor
  · intro h
    obtain ⟨cs, hcs, rfl⟩ := Option.map_eq_some_iff.1 h
    have hread : readCodePoints text.points = .ok cs := by
      cases hpoints : readCodePoints text.points with
      | ok others => rw [hpoints] at hcs; rw [Option.some.inj hcs]
      | error fault => rw [hpoints] at hcs; cases hcs
    rw [readCodePoints_eq_ok_iff] at hread
    rw [ofString, String.toList_ofList, hread]
  · rintro rfl
    rw [ofString, readCodePoints_eq_ok_iff.2 rfl]
    exact congrArg some String.ofList_toList

theorem text?_ofString (s : String) : (ofString s).text? = some s :=
  text?_eq_some_iff.2 rfl

theorem ofString_inj {a b : String} : ofString a = ofString b ↔ a = b := by
  rw [← text?_eq_some_iff, text?_ofString, Option.some.injEq]

/-- A text is that of no characters just when a surrogate stands in it. -/
theorem text?_eq_none_iff {text : WideText} :
    text.text? = none ↔ ∃ p ∈ text.points, p.isSurrogate = true := by
  have hread : (∃ cs, readCodePoints text.points = .ok cs) ↔ _ := exists_readCodePoints_iff
  unfold text?
  cases hpoints : readCodePoints text.points with
  | ok cs =>
    have hnone := hread.1 ⟨cs, hpoints⟩
    simp only [Except.toOption, Option.map_some, reduceCtorEq, false_iff, not_exists, not_and]
    exact fun p hp => by rw [hnone p hp]; exact Bool.false_ne_true
  | error fault =>
    have hsome : ¬ ∀ p ∈ text.points, p.isSurrogate = false := by
      rw [← hread, hpoints]
      rintro ⟨cs, h⟩
      cases h
    simpa [Except.toOption] using hsome

/-- The characters of a text; a text in which a surrogate stands has none. -/
def characters (text : WideText) : String :=
  text.text?.getD ""

theorem characters_ofString (s : String) : (ofString s).characters = s := by
  rw [characters, text?_ofString, Option.getD_some]

theorem characters_of_text? {text : WideText} {s : String} (h : text.text? = some s) :
    text.characters = s := by
  rw [characters, h, Option.getD_some]

theorem isEmpty_ofString (s : String) : (ofString s).isEmpty = s.isEmpty := by
  rw [isEmpty, ofString, List.isEmpty_map, Bool.eq_iff_iff, List.isEmpty_iff,
    String.toList_eq_nil_iff, String.isEmpty_iff]

theorem eq_empty_iff {text : WideText} : text.isEmpty = true ↔ text = "" := by
  rw [isEmpty, List.isEmpty_iff]
  exact ⟨fun h => congrArg WideText.mk h, fun h => congrArg points h⟩

end WideText

end SourceAudit
