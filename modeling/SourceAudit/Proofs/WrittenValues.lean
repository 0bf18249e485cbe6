-- What is written along with a value, and inside of how many others it is. A value cannot be
-- written just when something of it cannot: a number that is too long, or whatever lies too deep.

import SourceAudit.Document.Value

namespace SourceAudit.Document.Value

/-- To write a value inside of `depth` others, and of loops with some numbers, a part of it is
written inside of `n` others. A loop is not written inside of itself. -/
inductive Writes (part : Value) (n : Nat) : List Nat → Nat → Value → Prop where
  | whole {inside : List Nat} : Writes part n inside n part
  | item {inside : List Nat} {depth : Nat} {items : List Value} {item : Value}
      (member : item ∈ items) (within : Writes part n inside (depth + 1) item) :
      Writes part n inside depth (.list items)
  | key {inside : List Nat} {depth : Nat} {entries : List (Value × Value)} {entry : Value × Value}
      (member : entry ∈ entries) (within : Writes part n inside (depth + 1) entry.1) :
      Writes part n inside depth (.map entries)
  | entry {inside : List Nat} {depth : Nat} {entries : List (Value × Value)}
      {entry : Value × Value} (member : entry ∈ entries)
      (within : Writes part n inside (depth + 1) entry.2) :
      Writes part n inside depth (.map entries)
  | first {inside : List Nat} {depth : Nat} {first second : Value}
      (within : Writes part n inside (depth + 1) first) :
      Writes part n inside depth (.pair first second)
  | second {inside : List Nat} {depth : Nat} {first second : Value}
      (within : Writes part n inside (depth + 1) second) :
      Writes part n inside depth (.pair first second)
  | member {inside : List Nat} {depth : Nat} {members : List Value} {item : Value}
      (member : item ∈ members) (within : Writes part n inside (depth + 2) item) :
      Writes part n inside depth (.set members)
  | body {inside : List Nat} {depth number : Nat} {body : Value} (fresh : number ∉ inside)
      (within : Writes part n (number :: inside) depth body) :
      Writes part n inside depth (.loop number body)

/-- Why a part cannot be written inside of `n` others. -/
def IsFlaw (part : Value) (n : Nat) (cause : Breakdown) : Prop :=
  cause = .nestedTooDeep ∧ writingLimit ≤ n ∨
    cause = .tooManyDigits none ∧ ∃ number, part = .int number ∧ isTooLong number = true

/-! ## Items and entries -/

section

variable {inside : List Nat} {depth : Nat} {cause : Breakdown}

theorem flawInItems_eq_none_iff {items : List Value} :
    flawInItems inside depth items = none ↔ ∀ item ∈ items, flawIn inside depth item = none := by
  induction items with
  | nil => simp [flawInItems]
  | cons item rest ih => rw [flawInItems, Option.or_eq_none_iff, ih, List.forall_mem_cons]

theorem exists_of_flawInItems {items : List Value}
    (h : flawInItems inside depth items = some cause) :
    ∃ item ∈ items, flawIn inside depth item = some cause := by
  induction items with
  | nil => simp [flawInItems] at h
  | cons item rest ih =>
    rw [flawInItems, Option.or_eq_some_iff] at h
    rcases h with h | ⟨-, h⟩
    · exact ⟨item, List.mem_cons_self, h⟩
    · obtain ⟨other, hother, h⟩ := ih h
      exact ⟨other, List.mem_cons_of_mem _ hother, h⟩

theorem flawInEntries_eq_none_iff {entries : List (Value × Value)} :
    flawInEntries inside depth entries = none ↔
      ∀ entry ∈ entries, flawIn inside depth entry.1 = none ∧
        flawIn inside depth entry.2 = none := by
  induction entries with
  | nil => simp [flawInEntries]
  | cons entry rest ih =>
    rw [flawInEntries, Option.or_eq_none_iff, Option.or_eq_none_iff, ih, List.forall_mem_cons]

theorem exists_of_flawInEntries {entries : List (Value × Value)}
    (h : flawInEntries inside depth entries = some cause) :
    ∃ entry ∈ entries, flawIn inside depth entry.1 = some cause ∨
      flawIn inside depth entry.2 = some cause := by
  induction entries with
  | nil => simp [flawInEntries] at h
  | cons entry rest ih =>
    rw [flawInEntries, Option.or_eq_some_iff, Option.or_eq_some_iff] at h
    rcases h with (h | ⟨-, h⟩) | ⟨-, h⟩
    · exact ⟨entry, List.mem_cons_self, .inl h⟩
    · exact ⟨entry, List.mem_cons_self, .inr h⟩
    · obtain ⟨other, hother, h⟩ := ih h
      exact ⟨other, List.mem_cons_of_mem _ hother, h⟩

end

/-! ## One value -/

/-- A value that can be written does not lie too deep, and each part of it can be written. -/
theorem flawIn_eq_none_iff {inside : List Nat} {depth : Nat} {value : Value} :
    flawIn inside depth value = none ↔ depth < writingLimit ∧
      match value with
      | .int number => isTooLong number = false
      | .list items => ∀ item ∈ items, flawIn inside (depth + 1) item = none
      | .map entries => ∀ entry ∈ entries, flawIn inside (depth + 1) entry.1 = none ∧
          flawIn inside (depth + 1) entry.2 = none
      | .pair first second =>
        flawIn inside (depth + 1) first = none ∧ flawIn inside (depth + 1) second = none
      | .set members => ∀ item ∈ members, flawIn inside (depth + 2) item = none
      | .loop number body => number ∉ inside → flawIn (number :: inside) depth body = none
      | _ => True := by
  rw [flawIn.eq_def]
  by_cases hdeep : writingLimit ≤ depth
  · rw [if_pos hdeep]
    simp [Nat.not_lt.2 hdeep]
  · rw [if_neg hdeep, and_iff_right (Nat.lt_of_not_le hdeep)]
    cases value with
    | int number => cases hlong : isTooLong number <;> simp [hlong]
    | list items => exact flawInItems_eq_none_iff
    | map entries => exact flawInEntries_eq_none_iff
    | pair first second => exact Option.or_eq_none_iff
    | set members => exact flawInItems_eq_none_iff
    | loop number body =>
      by_cases hin : number ∈ inside <;> simp [hin]
    | _ => simp

/-- Nothing of a value that can be written has a flaw. -/
theorem Writes.not_isFlaw {part : Value} {n : Nat} {inside : List Nat} {depth : Nat}
    {value : Value} (h : Writes part n inside depth value)
    (hnone : flawIn inside depth value = none) (cause : Breakdown) : ¬ part.IsFlaw n cause := by
  induction h with
  | whole =>
    rintro (⟨-, hdeep⟩ | ⟨-, number, rfl, hlong⟩)
    · exact absurd (flawIn_eq_none_iff.1 hnone).1 (Nat.not_lt.2 hdeep)
    · rw [(flawIn_eq_none_iff.1 hnone).2] at hlong
      cases hlong
  | item member _ ih => exact ih ((flawIn_eq_none_iff.1 hnone).2 _ member)
  | key member _ ih => exact ih ((flawIn_eq_none_iff.1 hnone).2 _ member).1
  | entry member _ ih => exact ih ((flawIn_eq_none_iff.1 hnone).2 _ member).2
  | first _ ih => exact ih (flawIn_eq_none_iff.1 hnone).2.1
  | second _ ih => exact ih (flawIn_eq_none_iff.1 hnone).2.2
  | member member _ ih => exact ih ((flawIn_eq_none_iff.1 hnone).2 _ member)
  | body fresh _ ih => exact ih ((flawIn_eq_none_iff.1 hnone).2 fresh)

theorem sizeOf_entry_lt {entries : List (Value × Value)} {entry : Value × Value}
    (h : entry ∈ entries) :
    sizeOf entry.1 < sizeOf (Value.map entries) ∧ sizeOf entry.2 < sizeOf (Value.map entries) := by
  have hlt := List.sizeOf_lt_of_mem h
  obtain ⟨key, value⟩ := entry
  simp only [Prod.mk.sizeOf_spec, Value.map.sizeOf_spec] at hlt ⊢
  omega

/-- A value that cannot be written has a part with that flaw. -/
theorem exists_writes_of_flawIn {inside : List Nat} {depth : Nat} {value : Value}
    {cause : Breakdown} (h : flawIn inside depth value = some cause) :
    ∃ part n, Writes part n inside depth value ∧ part.IsFlaw n cause := by
  rw [flawIn.eq_def] at h
  split at h
  · next hdeep =>
    cases h
    exact ⟨value, depth, .whole, .inl ⟨rfl, hdeep⟩⟩
  · split at h
    · next number =>
      split at h
      · next hlong =>
        cases h
        exact ⟨.int number, depth, .whole, .inr ⟨rfl, number, rfl, hlong⟩⟩
      · cases h
    · next items =>
      obtain ⟨item, hmem, hflaw⟩ := exists_of_flawInItems h
      obtain ⟨part, n, hwrites, hpart⟩ := exists_writes_of_flawIn hflaw
      exact ⟨part, n, .item hmem hwrites, hpart⟩
    · next entries =>
      obtain ⟨entry, hmem, hflaw | hflaw⟩ := exists_of_flawInEntries h
      · obtain ⟨part, n, hwrites, hpart⟩ := exists_writes_of_flawIn hflaw
        exact ⟨part, n, .key hmem hwrites, hpart⟩
      · obtain ⟨part, n, hwrites, hpart⟩ := exists_writes_of_flawIn hflaw
        exact ⟨part, n, .entry hmem hwrites, hpart⟩
    · rcases Option.or_eq_some_iff.1 h with hflaw | ⟨-, hflaw⟩
      · obtain ⟨part, n, hwrites, hpart⟩ := exists_writes_of_flawIn hflaw
        exact ⟨part, n, .first hwrites, hpart⟩
      · obtain ⟨part, n, hwrites, hpart⟩ := exists_writes_of_flawIn hflaw
        exact ⟨part, n, .second hwrites, hpart⟩
    · next members =>
      obtain ⟨item, hmem, hflaw⟩ := exists_of_flawInItems h
      obtain ⟨part, n, hwrites, hpart⟩ := exists_writes_of_flawIn hflaw
      exact ⟨part, n, .member hmem hwrites, hpart⟩
    · next number body =>
      split at h
      · cases h
      · next hfresh =>
        obtain ⟨part, n, hwrites, hpart⟩ := exists_writes_of_flawIn h
        exact ⟨part, n, .body (by simpa using hfresh) hwrites, hpart⟩
    · cases h
termination_by sizeOf value
decreasing_by
  all_goals subst_vars
  · exact Nat.lt_trans (List.sizeOf_lt_of_mem hmem) (by simp)
  · exact (sizeOf_entry_lt hmem).1
  · exact (sizeOf_entry_lt hmem).2
  · simp only [Value.pair.sizeOf_spec]
    omega
  · simp only [Value.pair.sizeOf_spec]
    omega
  · exact Nat.lt_trans (List.sizeOf_lt_of_mem hmem) (by simp)
  · simp only [Value.loop.sizeOf_spec]
    omega

/-! ## The whole value -/

/-- Why a value cannot be written: something of it is a number that is too long, or lies too
deep. -/
def Breaks (value : Value) (cause : Breakdown) : Prop :=
  ∃ part n, Writes part n [] 0 value ∧ part.IsFlaw n cause

theorem flaw?_eq_flawIn (value : Value) : value.flaw? = flawIn [] 0 value := by
  cases value with
  | text s => exact (flawIn_eq_none_iff.2 ⟨by decide, trivial⟩).symm
  | _ => rfl

theorem breaks_of_flaw? {value : Value} {cause : Breakdown} (h : value.flaw? = some cause) :
    value.Breaks cause := by
  rw [flaw?_eq_flawIn] at h
  exact exists_writes_of_flawIn h

/-- A value can be written just when nothing of it has a flaw. -/
theorem flaw?_eq_none_iff {value : Value} :
    value.flaw? = none ↔ ∀ cause, ¬ value.Breaks cause := by
  constructor
  · rintro h cause ⟨part, n, hwrites, hpart⟩
    rw [flaw?_eq_flawIn] at h
    exact hwrites.not_isFlaw h cause hpart
  · intro h
    exact Option.eq_none_iff_forall_not_mem.2 fun cause hflaw => h cause (breaks_of_flaw? hflaw)

/-- A list inside of 988 others lies too deep, and inside of one less it does not. -/
example :
    (Nat.repeat (fun value => Value.list [value]) 988 (.list [])).flaw? = some .nestedTooDeep ∧
      (Nat.repeat (fun value => Value.list [value]) 987 (.list [])).flaw? = none := by
  decide +kernel

end SourceAudit.Document.Value
