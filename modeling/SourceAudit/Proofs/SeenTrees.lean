-- What is seen of a tree. Names lead from a tree to what lies there; of these things those are seen
-- that lie in directories which show them and to which the way is open. In a tree that is open
-- throughout, all that names lead to is seen.

import SourceAudit.Files.Tree
import Mathlib.Data.List.Nodup

namespace SourceAudit.Files

/-- A name that a path can have. -/
def IsName (name : String) : Prop :=
  name ≠ "" ∧ name ≠ "." ∧ '/' ∉ name.toList
  deriving Decidable

namespace Tree

/-- Each directory holds names that a path can have, each of them once. -/
inductive IsProper : Tree → Prop
  | file (bytes : List UInt8) : IsProper (file bytes)
  | sealed (size : Nat) : IsProper (sealed size)
  | directory (access : Access) (entries : List (String × Tree))
      (names : ∀ entry ∈ entries, IsName entry.1) (distinct : (entries.map Prod.fst).Nodup)
      (inside : ∀ entry ∈ entries, IsProper entry.2) : IsProper (directory access entries)

/-- All directories of the tree show what lies in them, and may be gone through. -/
inductive IsOpen : Tree → Prop
  | file (bytes : List UInt8) : IsOpen (file bytes)
  | sealed (size : Nat) : IsOpen (sealed size)
  | directory {access : Access} {entries : List (String × Tree)} (listed : access.listed = true)
      (entered : access.entered = true) (inside : ∀ entry ∈ entries, IsOpen entry.2) :
      IsOpen (directory access entries)

/-! ## The way to something -/

/-- Names lead from a tree to what lies there. -/
inductive Leads : Tree → List String → Tree → Prop
  | here (tree : Tree) : Leads tree [] tree
  | down {access : Access} {entries : List (String × Tree)} {name : String} {child found : Tree}
      {names : List String} (entry : (name, child) ∈ entries) (rest : Leads child names found) :
      Leads (directory access entries) (name :: names) found

theorem leads_nil_iff {tree found : Tree} : tree.Leads [] found ↔ found = tree := by
  constructor
  · rintro ⟨⟩
    rfl
  · rintro rfl
    exact .here _

theorem leads_cons_iff {access : Access} {entries : List (String × Tree)} {name : String}
    {names : List String} {found : Tree} :
    (directory access entries).Leads (name :: names) found ↔
      ∃ child, (name, child) ∈ entries ∧ child.Leads names found := by
  constructor
  · rintro (_ | ⟨hentry, hrest⟩)
    exact ⟨_, hentry, hrest⟩
  · rintro ⟨child, hentry, hrest⟩
    exact .down hentry hrest

/-! ## The sight of something -/

/-- Something is seen below a tree: it lies in a directory that shows it, and so do all directories
on the way there, which may be gone through besides. -/
inductive Shows : Tree → Sight → Prop
  | here {access : Access} {entries : List (String × Tree)} {name : String} {item : Tree}
      (listed : access.listed = true) (entry : (name, item) ∈ entries) :
      Shows (directory access entries) ⟨[name], item, access.entered⟩
  | beyond {access : Access} {entries : List (String × Tree)} {name : String} {child item : Tree}
      {names : List String} {isReached : Bool} (listed : access.listed = true)
      (entered : access.entered = true) (entry : (name, child) ∈ entries)
      (inside : Shows child ⟨names, item, isReached⟩) :
      Shows (directory access entries) ⟨name :: names, item, isReached⟩

theorem Shows.names_ne_nil {tree : Tree} {sight : Sight} (h : tree.Shows sight) :
    sight.names ≠ [] := by
  cases h <;> simp

theorem shows_cons_iff {access : Access} {entries : List (String × Tree)} {name : String}
    {names : List String} {item : Tree} {isReached : Bool} :
    (directory access entries).Shows ⟨name :: names, item, isReached⟩ ↔
      access.listed = true ∧ ∃ child, (name, child) ∈ entries ∧
        (names = [] ∧ item = child ∧ isReached = access.entered ∨
          access.entered = true ∧ child.Shows ⟨names, item, isReached⟩) := by
  constructor
  · rintro (⟨hlisted, hentry⟩ | ⟨hlisted, hentered, hentry, hinside⟩)
    · exact ⟨hlisted, item, hentry, .inl ⟨rfl, rfl, rfl⟩⟩
    · exact ⟨hlisted, _, hentry, .inr ⟨hentered, hinside⟩⟩
  · rintro ⟨hlisted, child, hentry, ⟨rfl, rfl, rfl⟩ | ⟨hentered, hinside⟩⟩
    · exact .here hlisted hentry
    · exact .beyond hlisted hentered hentry hinside

theorem seenIn_eq (isReached : Bool) (entries : List (String × Tree)) :
    seenIn isReached entries = entries.flatMap fun entry =>
      ⟨[entry.1], entry.2, isReached⟩ ::
        if isReached then entry.2.seen.map (.below entry.1) else [] := by
  induction entries with
  | nil => rfl
  | cons entry rest ih =>
    obtain ⟨name, item⟩ := entry
    rw [seenIn, ih, List.flatMap_cons, List.cons_append]

theorem map_names_seenIn (isReached : Bool) (entries : List (String × Tree)) :
    (seenIn isReached entries).map Sight.names = entries.flatMap fun entry =>
      ([] :: if isReached then entry.2.seen.map Sight.names else []).map (entry.1 :: ·) := by
  rw [seenIn_eq, List.map_flatMap]
  refine List.flatMap_congr fun entry _ => ?_
  cases isReached <;> simp [Sight.below]

theorem mem_seen_iff {tree : Tree} {sight : Sight} : sight ∈ tree.seen ↔ tree.Shows sight := by
  obtain ⟨names, item, isReached⟩ := sight
  induction names generalizing tree with
  | nil =>
    refine iff_of_false (fun h => ?_) fun h => h.names_ne_nil rfl
    cases tree with
    | file | sealed => simp [seen] at h
    | directory access entries =>
      unfold seen at h
      split at h
      · simp [seenIn_eq, Sight.below] at h
      · simp at h
  | cons name names ih =>
    cases tree with
    | file | sealed => exact iff_of_false (by simp [seen]) nofun
    | directory access entries =>
      rw [shows_cons_iff, seen]
      by_cases hlisted : access.listed = true
      · rw [if_pos hlisted, seenIn_eq, List.mem_flatMap]
        constructor
        · rintro ⟨⟨other, child⟩, hentry, hsight⟩
          rcases List.mem_cons.1 hsight with hsight | hsight
          · cases hsight
            exact ⟨hlisted, _, hentry, .inl ⟨rfl, rfl, rfl⟩⟩
          · split at hsight
            · next hentered =>
              obtain ⟨inner, hinner, hsame⟩ := List.mem_map.1 hsight
              cases hsame
              exact ⟨hlisted, child, hentry, .inr ⟨hentered, ih.1 hinner⟩⟩
            · cases hsight
        · rintro ⟨-, child, hentry, ⟨rfl, rfl, rfl⟩ | ⟨hentered, hinside⟩⟩
          · exact ⟨(name, item), hentry, List.mem_cons_self⟩
          · refine ⟨(name, child), hentry, List.mem_cons_of_mem _ ?_⟩
            rw [if_pos hentered]
            exact List.mem_map.2 ⟨_, ih.2 hinside, rfl⟩
      · simp [hlisted]

/-- A directory holds one thing of a name, so what is seen past something lies below it. -/
theorem Shows.append_iff {tree middle item : Tree} {names more : List String} {isReached : Bool}
    (htree : tree.IsProper) (h : tree.Shows ⟨names, middle, true⟩) (hmore : more ≠ []) :
    tree.Shows ⟨names ++ more, item, isReached⟩ ↔ middle.Shows ⟨more, item, isReached⟩ := by
  induction names generalizing tree with
  | nil => exact absurd rfl h.names_ne_nil
  | cons name names ih =>
    cases htree with
    | file | sealed => cases h
    | directory access entries hnames hdistinct hinside =>
      obtain ⟨hlisted, child, hentry, hcases⟩ := shows_cons_iff.1 h
      have hchild : ∀ other, (name, other) ∈ entries → other = child := fun other hother =>
        (Prod.mk.inj (List.inj_on_of_nodup_map hdistinct hother hentry rfl)).2
      have hbeyond : names ++ more ≠ [] := by simp [hmore]
      have hdown : (directory access entries).Shows ⟨name :: names ++ more, item, isReached⟩ ↔
          access.entered = true ∧ child.Shows ⟨names ++ more, item, isReached⟩ := by
        rw [List.cons_append, shows_cons_iff]
        constructor
        · rintro ⟨-, other, hother, hnil | hrest⟩
          · exact absurd hnil.1 hbeyond
          · exact hchild other hother ▸ hrest
        · exact fun hrest => ⟨hlisted, child, hentry, .inr hrest⟩
      rw [hdown]
      rcases hcases with ⟨rfl, rfl, hentered⟩ | ⟨hentered, hrest⟩
      · rw [List.nil_append, ← hentered, and_iff_right rfl]
      · rw [and_iff_right hentered, ih (hinside _ hentry) hrest]

/-- In a tree that is open throughout, all that names lead to is seen. -/
theorem IsOpen.shows_iff {tree : Tree} (h : tree.IsOpen) {names : List String} {item : Tree}
    {isReached : Bool} :
    tree.Shows ⟨names, item, isReached⟩ ↔
      names ≠ [] ∧ isReached = true ∧ tree.Leads names item := by
  induction names generalizing tree with
  | nil => exact iff_of_false (fun h => h.names_ne_nil rfl) fun h => h.1 rfl
  | cons name names ih =>
    cases h with
    | file | sealed => exact iff_of_false nofun fun h => nomatch h.2.2
    | directory hlisted hentered hinside =>
      rw [shows_cons_iff, leads_cons_iff, hlisted, hentered]
      constructor
      · rintro ⟨-, child, hentry, ⟨rfl, rfl, rfl⟩ | ⟨-, hrest⟩⟩
        · exact ⟨by simp, rfl, item, hentry, .here _⟩
        · obtain ⟨-, hreached, hlead⟩ := (ih (hinside _ hentry)).1 hrest
          exact ⟨by simp, hreached, child, hentry, hlead⟩
      · rintro ⟨-, rfl, child, hentry, hlead⟩
        refine ⟨rfl, child, hentry, ?_⟩
        rcases eq_or_ne names [] with rfl | hne
        · exact .inl ⟨rfl, leads_nil_iff.1 hlead, rfl⟩
        · exact .inr ⟨rfl, (ih (hinside _ hentry)).2 ⟨hne, rfl, hlead⟩⟩

/-! ## Proper trees -/

namespace IsProper

variable {tree : Tree}

/-- No two things that are seen have the same names on the way to them. -/
theorem nodup_seen (h : tree.IsProper) : (tree.seen.map Sight.names).Nodup := by
  induction h with
  | file | sealed => simp [seen]
  | directory access entries names distinct inside ih =>
    unfold seen
    split
    · rw [map_names_seenIn, List.nodup_flatMap]
      refine ⟨fun entry hentry => List.Nodup.map List.cons_injective ?_, ?_⟩
      · rw [List.nodup_cons]
        split
        · refine ⟨fun hnil => ?_, ih entry hentry⟩
          obtain ⟨sight, hsight, hsame⟩ := List.mem_map.1 hnil
          exact (mem_seen_iff.1 hsight).names_ne_nil hsame
        · simp
      · refine (List.pairwise_map.1 distinct).imp fun {a b} hne => ?_
        intro way ha hb
        obtain ⟨_, -, rfl⟩ := List.mem_map.1 ha
        obtain ⟨_, -, hsame⟩ := List.mem_map.1 hb
        exact hne (List.cons.inj hsame).1.symm
    · simp

/-- Names lead to one thing that is seen. -/
theorem eq_of_shows (h : tree.IsProper) {a b : Sight} (ha : tree.Shows a) (hb : tree.Shows b)
    (hnames : a.names = b.names) : a = b :=
  List.inj_on_of_nodup_map h.nodup_seen (mem_seen_iff.2 ha) (mem_seen_iff.2 hb) hnames

theorem isName_of_shows {sight : Sight} (h : tree.IsProper) (hshows : tree.Shows sight) :
    ∀ name ∈ sight.names, IsName name := by
  induction hshows with
  | here listed entry =>
    cases h with
    | directory _ _ names _ _ => exact List.forall_mem_singleton.2 (names _ entry)
  | beyond listed entered entry inside ih =>
    cases h with
    | directory _ _ names _ inside =>
      exact List.forall_mem_cons.2 ⟨names _ entry, ih (inside _ entry)⟩

theorem of_lookup {access : Access} {entries : List (String × Tree)} {name : String} {child : Tree}
    (h : (Tree.directory access entries).IsProper) (hchild : entries.lookup name = some child) :
    child.IsProper := by
  obtain ⟨front, back, rfl, -⟩ := List.lookup_eq_some_iff.1 hchild
  cases h with
  | directory _ _ _ _ inside => exact inside _ (List.mem_append_right _ List.mem_cons_self)

theorem of_findFrom {above : List Tree} {tree found : Tree} {names : List String}
    (habove : ∀ other ∈ above, other.IsProper) (htree : tree.IsProper)
    (h : findFrom above tree names = .ok found) : found.IsProper := by
  fun_induction findFrom above tree names with
  | case1 above tree =>
    cases h
    exact htree
  | case2 | case3 | case4 | case7 => cases h
  | case5 rest access entries hentered ih => exact ih habove htree h
  | case6 rest access entries hentered parent above ih =>
    obtain ⟨hparent, habove⟩ := List.forall_mem_cons.1 habove
    exact ih habove hparent h
  | case8 above name rest access entries hentered hup child hchild ih =>
    exact ih (List.forall_mem_cons.2 ⟨htree, habove⟩) (htree.of_lookup hchild) h

theorem of_standFrom? {above : List Tree} {tree : Tree} {names : List String}
    {stand : List Tree × Tree} (habove : ∀ other ∈ above, other.IsProper) (htree : tree.IsProper)
    (h : standFrom? above tree names = some stand) :
    (∀ other ∈ stand.1, other.IsProper) ∧ stand.2.IsProper := by
  induction names generalizing above tree with
  | nil =>
    cases h
    exact ⟨habove, htree⟩
  | cons name names ih =>
    rw [standFrom?, Option.bind_eq_some_iff] at h
    obtain ⟨child, hchild, h⟩ := h
    cases tree with
    | file | sealed => cases hchild
    | directory access entries =>
      exact ih (List.forall_mem_cons.2 ⟨htree, habove⟩) (htree.of_lookup hchild) h

end IsProper

end Tree

end SourceAudit.Files
