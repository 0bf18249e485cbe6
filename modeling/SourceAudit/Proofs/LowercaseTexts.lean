-- Texts in lower case. A text that has been put into lower case stays as it is when that is done
-- again, since no letter that comes out has a lower-case form of its own, and surrogates have none.

import SourceAudit.Proofs.WideTexts

namespace SourceAudit.Text

/-! ## Runs of letters -/

namespace LowerRun

/-- No letter that comes out of the first run goes into the second one: the runs lie apart, or one
has the even and the other the odd letters, or the first has one letter alone. -/
def isApart (a b : LowerRun) : Bool :=
  Nat.blt b.last a.lower || Nat.blt (a.lower + (a.last - a.first)) b.first ||
    (a.step == 2 && b.step == 2 && a.lower % 2 != b.first % 2) ||
    (a.first == a.last && (b.lower? a.lower).isNone)

theorem lower?_eq_some {run : LowerRun} {point lowered : Nat}
    (h : run.lower? point = some lowered) :
    (run.first ≤ point ∧ point ≤ run.last ∧ (point - run.first) % run.step = 0) ∧
      lowered = run.lower + (point - run.first) := by
  unfold lower? at h
  split at h
  · next hin => exact ⟨hin, (Option.some.inj h).symm⟩
  · cases h

theorem lower?_eq_none_of_isApart {a b : LowerRun} {point lowered : Nat}
    (hapart : a.isApart b = true) (h : a.lower? point = some lowered) :
    b.lower? lowered = none := by
  obtain ⟨⟨hfirst, hlast, hstep⟩, rfl⟩ := lower?_eq_some h
  cases hb : b.lower? (a.lower + (point - a.first)) with
  | none => rfl
  | some other =>
    obtain ⟨⟨hbfirst, hblast, hbstep⟩, -⟩ := lower?_eq_some hb
    simp only [isApart, Bool.or_eq_true, Bool.and_eq_true, Nat.blt_eq, beq_iff_eq, bne_iff_ne,
      Option.isNone_iff_eq_none] at hapart
    rcases hapart with ((hbelow | habove) | ⟨⟨ha, hb'⟩, hparity⟩) | ⟨hsingle, hnone⟩
    · omega
    · omega
    · rw [ha] at hstep
      rw [hb'] at hbstep
      omega
    · have hsame : point = a.first := by omega
      rw [hsame, Nat.sub_self, Nat.add_zero, hnone] at hb
      cases hb

end LowerRun

/-- The letters that come out of the runs go into none of them. -/
theorem isApart_of_mem : ∀ a ∈ lowerRuns.toList, ∀ b ∈ lowerRuns.toList, a.isApart b = true := by
  have hall : (lowerRuns.toList.all fun a => lowerRuns.toList.all fun b => a.isApart b) = true := by
    decide +kernel
  intro a ha b hb
  exact List.all_eq_true.1 (List.all_eq_true.1 hall a ha) b hb

/-- Only two letters come out of the runs below U+0080. -/
theorem ascii_of_mem : ∀ run ∈ lowerRuns.toList, run.lower < 128 →
    run.first = run.last ∧ (run.lower = 105 ∨ run.lower = 107) := by
  decide +kernel

/-! ## Letters -/

/-- A letter that is its own lower-case form wherever it stands. -/
def IsLower (c : Char) : Prop :=
  (c.val < 128 → c.toLower = c) ∧
    (¬ c.val < 128 → c ≠ 'Σ' ∧ c ≠ 'İ' ∧ tableLower c.toNat = c.toNat)

theorem lowerChar_of_isLower {α : Type} {number : α → Nat} {c : Char} (h : IsLower c)
    (before after : List α) : lowerChar number before c after = [c] := by
  unfold lowerChar
  split
  · next hascii => rw [h.1 hascii]
  · next hascii =>
    obtain ⟨hsigma, hdotted, htable⟩ := h.2 hascii
    rw [if_neg hsigma, if_neg hdotted, htable, Char.ofNat_toNat]

theorem tableLower_eq_self {point : Nat}
    (h : ∀ run ∈ lowerRuns.toList, run.lower? point = none) : tableLower point = point := by
  have hlook : ∀ i : Nat, (lowerRuns[i]?).bind (·.lower? point) = none := by
    intro i
    cases hrun : lowerRuns[i]? with
    | none => rfl
    | some run => exact h run (Array.mem_toList_iff.2 (Array.mem_of_getElem? hrun))
  unfold tableLower
  dsimp only
  rw [hlook, hlook]
  rfl

/-- A letter is changed by a run. -/
theorem tableLower_cases (point : Nat) : tableLower point = point ∨
    ∃ run ∈ lowerRuns.toList, run.lower? point = some (tableLower point) := by
  have hlook : ∀ (i lowered : Nat), (lowerRuns[i]?).bind (·.lower? point) = some lowered →
      ∃ run ∈ lowerRuns.toList, run.lower? point = some lowered := by
    intro i lowered h
    obtain ⟨run, hrun, hlower⟩ := Option.bind_eq_some_iff.1 h
    exact ⟨run, Array.mem_toList_iff.2 (Array.mem_of_getElem? hrun), hlower⟩
  unfold tableLower
  dsimp only
  cases hlast : (lowerRuns[runsUpTo lowerRuns point 0 lowerRuns.size - 1]?).bind
      (·.lower? point) with
  | some lowered => exact .inr (hlook _ _ hlast)
  | none =>
    cases hother : (lowerRuns[runsUpTo lowerRuns point 0 lowerRuns.size - 2]?).bind
        (·.lower? point) with
    | some lowered => exact .inr (hlook _ _ hother)
    | none => exact .inl rfl

theorem toNat_ofNat {point : Nat} (h : point.isValidChar) : (Char.ofNat point).toNat = point := by
  rw [Char.ofNat, dif_pos h]
  rfl

theorem val_lt_iff {c : Char} : c.val < 128 ↔ c.toNat < 128 := Iff.rfl

/-- The two letters that are treated apart go into a run. -/
theorem exists_lower?_of_special : ∀ point ∈ [931, 304],
    ∃ run ∈ lowerRuns.toList, run.lower? point ≠ none := by
  have hany : ([931, 304].all fun point =>
      lowerRuns.toList.any fun run => (run.lower? point).isSome) = true := by decide +kernel
  intro point hpoint
  obtain ⟨run, hrun, hsome⟩ := List.any_eq_true.1 (List.all_eq_true.1 hany point hpoint)
  exact ⟨run, hrun, Option.isSome_iff_ne_none.1 hsome⟩

/-- What comes out of a run is its own lower-case form. -/
theorem isLower_of_lower? {run : LowerRun} (hrun : run ∈ lowerRuns.toList) {point lowered : Nat}
    (h : run.lower? point = some lowered) : IsLower (Char.ofNat lowered) := by
  have hnone : ∀ other ∈ lowerRuns.toList, other.lower? lowered = none := fun other hother =>
    LowerRun.lower?_eq_none_of_isApart (isApart_of_mem run hrun other hother) h
  by_cases hvalid : lowered.isValidChar
  · have hnat := toNat_ofNat hvalid
    have hspecial : ∀ special ∈ [931, 304], lowered ≠ special := by
      rintro special hmem rfl
      obtain ⟨other, hother, hsome⟩ := exists_lower?_of_special lowered hmem
      exact hsome (hnone other hother)
    refine ⟨fun hascii => ?_, fun _ => ⟨fun heq => ?_, fun heq => ?_, ?_⟩⟩
    · rw [val_lt_iff, hnat] at hascii
      obtain ⟨⟨hfirst, hlast, -⟩, hlowered⟩ := LowerRun.lower?_eq_some h
      obtain ⟨hsingle, hletter⟩ := ascii_of_mem run hrun (by omega)
      have hsame : lowered = run.lower := by omega
      rw [hsame]
      rcases hletter with hletter | hletter <;> rw [hletter] <;> decide
    · exact hspecial 931 (by simp) (by rw [← hnat, heq]; rfl)
    · exact hspecial 304 (by simp) (by rw [← hnat, heq]; rfl)
    · rw [hnat, tableLower_eq_self hnone]
  · have hzero : Char.ofNat lowered = '\x00' := by
      unfold Char.ofNat
      rw [dif_neg hvalid]
      rfl
    rw [hzero]
    exact ⟨fun _ => by decide, fun h => absurd (by decide) h⟩

theorem isLower_toLower {c : Char} (h : c.val < 128) : IsLower c.toLower := by
  have hall : ∀ n : Fin 128, (Char.ofNat n).toLower.val < 128 ∧
      (Char.ofNat n).toLower.toLower = (Char.ofNat n).toLower := by decide +kernel
  have hc := hall ⟨c.toNat, h⟩
  dsimp only at hc
  rw [Char.ofNat_toNat] at hc
  exact ⟨fun _ => hc.2, fun hlarge => absurd hc.1 hlarge⟩

/-- The letters that the special cases give. -/
theorem isLower_special : ∀ c ∈ ['σ', 'ς', 'i', '\u0307'], IsLower c := by
  have hnone : ([963, 962, 775].all fun point =>
      lowerRuns.toList.all fun run => (run.lower? point).isNone) = true := by decide +kernel
  have htable : ∀ point ∈ [963, 962, 775], tableLower point = point := by
    intro point hpoint
    have hruns := List.all_eq_true.1 (List.all_eq_true.1 hnone point hpoint)
    exact tableLower_eq_self fun run hrun => Option.isNone_iff_eq_none.1 (hruns run hrun)
  have hbeyond : ∀ c : Char, ¬ c.val < 128 → c ≠ 'Σ' → c ≠ 'İ' →
      tableLower c.toNat = c.toNat → IsLower c :=
    fun c hlarge hsigma hdotted h => ⟨fun hascii => absurd hascii hlarge,
      fun _ => ⟨hsigma, hdotted, h⟩⟩
  simp only [List.forall_mem_cons]
  refine ⟨?_, ?_, ?_, ?_, fun c hc => absurd hc List.not_mem_nil⟩
  · exact hbeyond 'σ' (by decide) (by decide) (by decide) (htable 963 (by simp))
  · exact hbeyond 'ς' (by decide) (by decide) (by decide) (htable 962 (by simp))
  · exact @isLower_toLower 'i' (by decide)
  · exact hbeyond '\u0307' (by decide) (by decide) (by decide) (htable 775 (by simp))

theorem isLower_of_mem_lowerChar {α : Type} {number : α → Nat} {before after : List α}
    {c lowered : Char} (h : lowered ∈ lowerChar number before c after) : IsLower lowered := by
  unfold lowerChar at h
  split at h
  · next hascii =>
    obtain rfl := List.mem_singleton.1 h
    exact isLower_toLower hascii
  · next hascii =>
    split at h
    · split at h
      · obtain rfl := List.mem_singleton.1 h
        exact isLower_special 'ς' (by simp)
      · obtain rfl := List.mem_singleton.1 h
        exact isLower_special 'σ' (by simp)
    · next hsigma =>
      split at h
      · exact isLower_special lowered (List.mem_cons_of_mem _ (List.mem_cons_of_mem _ h))
      · next hdotted =>
        rw [List.mem_singleton] at h
        rw [h]
        rcases tableLower_cases c.toNat with hself | ⟨run, hrun, hlower⟩
        · rw [hself, Char.ofNat_toNat]
          exact ⟨fun h => absurd h hascii, fun _ => ⟨hsigma, hdotted, hself⟩⟩
        · exact isLower_of_lower? hrun hlower

end SourceAudit.Text

/-! ## Whole texts -/

namespace SourceAudit.WideText

open SourceAudit.Text

/-- A code point that is its own lower-case form: a surrogate, or such a letter. -/
def IsLowerPoint (p : CodePoint) : Prop :=
  ∀ c, p.toChar? = some c → IsLower c

theorem isLowerPoint_ofChar {c : Char} (h : IsLower c) : IsLowerPoint (.ofChar c) := by
  intro other hother
  rw [CodePoint.toChar?_ofChar] at hother
  exact Option.some.inj hother ▸ h

theorem ofChar_of_toChar? {p : CodePoint} {c : Char} (h : p.toChar? = some c) :
    CodePoint.ofChar c = p := by
  unfold CodePoint.toChar? at h
  split at h
  · cases h
  · next hchar =>
    obtain rfl := Option.some.inj h
    exact CodePoint.ofChar_ofNat (Bool.eq_false_iff.2 hchar)

theorem isLowerPoint_of_mem_lowerFrom {before points : List CodePoint} :
    ∀ p ∈ lowerFrom before points, IsLowerPoint p := by
  induction points generalizing before with
  | nil => exact fun p hp => absurd hp List.not_mem_nil
  | cons first rest ih =>
    intro p hp
    rcases List.mem_append.1 hp with hp | hp
    · cases hfirst : first.toChar? with
      | none =>
        rw [hfirst] at hp
        obtain rfl := List.mem_singleton.1 hp
        intro c hc
        rw [hfirst] at hc
        cases hc
      | some c =>
        rw [hfirst] at hp
        obtain ⟨lowered, hlowered, rfl⟩ := List.mem_map.1 hp
        exact isLowerPoint_ofChar (isLower_of_mem_lowerChar hlowered)
    · exact ih p hp

theorem lowerFrom_of_isLowerPoint {before points : List CodePoint}
    (h : ∀ p ∈ points, IsLowerPoint p) : lowerFrom before points = points := by
  induction points generalizing before with
  | nil => rfl
  | cons first rest ih =>
    obtain ⟨hfirst, hrest⟩ := List.forall_mem_cons.1 h
    rw [lowerFrom, ih hrest]
    cases hchar : first.toChar? with
    | none => rfl
    | some c =>
      dsimp only
      rw [lowerChar_of_isLower (hfirst c hchar), List.map_singleton, ofChar_of_toChar? hchar]
      rfl

/-- All letters of a text are their own lower-case forms. -/
theorem isLowerPoint_of_mem_lowercase {text : WideText} :
    ∀ p ∈ text.lowercase.points, IsLowerPoint p :=
  isLowerPoint_of_mem_lowerFrom

theorem lowercase_of_isLowerPoint {text : WideText} (h : ∀ p ∈ text.points, IsLowerPoint p) :
    text.lowercase = text :=
  congrArg WideText.mk (lowerFrom_of_isLowerPoint h)

theorem lowercase_lowercase (text : WideText) : text.lowercase.lowercase = text.lowercase :=
  lowercase_of_isLowerPoint isLowerPoint_of_mem_lowercase

end SourceAudit.WideText
