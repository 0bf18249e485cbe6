-- The files that are taken from a root. In a tree whose directories hold each name once, a root
-- gives each path once; and paths as they are read are told apart by their written form.

import SourceAudit.Files.Walk
import SourceAudit.Proofs.SeenTrees

namespace SourceAudit.Files

open SourceAudit.Files.Tree (Sight)

/-! ## Paths as they are read -/

namespace Path

/-- The names of a text. -/
def namesIn (text : List Char) : List String :=
  (namesFrom [] text).filter fun name => name ≠ "" ∧ name ≠ "."

theorem no_slash_of_mem_namesFrom {current text : List Char} (hcurrent : '/' ∉ current)
    {name : String} (h : name ∈ namesFrom current text) : '/' ∉ name.toList := by
  fun_induction namesFrom current text with
  | case1 current =>
    rw [List.mem_singleton.1 h]
    simpa using hcurrent
  | case2 current rest ih =>
    rcases List.mem_cons.1 h with rfl | h
    · simpa using hcurrent
    · exact ih (by simp) h
  | case3 current c rest hc ih => exact ih (by simp [hcurrent, Ne.symm hc]) h

theorem namesFrom_eq_splitOn {current : List Char} (hcurrent : '/' ∉ current) (text : List Char) :
    namesFrom current text = ((current.reverse ++ text).splitOn '/').map String.ofList := by
  fun_induction namesFrom current text with
  | case1 current =>
    rw [List.append_nil, List.splitOn_eq_singleton (by simpa using hcurrent), List.map_singleton]
  | case2 current rest ih =>
    rw [ih (by simp), List.splitOn_append_cons_self_of_not_mem (by simpa using hcurrent)]
    rfl
  | case3 current c rest hc ih =>
    rw [ih (by simp [hcurrent, Ne.symm hc]), List.reverse_cons, List.append_assoc,
      List.singleton_append]

theorem isName_of_mem_namesIn {text : List Char} {name : String} (h : name ∈ namesIn text) :
    IsName name := by
  obtain ⟨hname, hkept⟩ := List.mem_filter.1 h
  simp only [decide_eq_true_eq] at hkept
  exact ⟨hkept.1, hkept.2, no_slash_of_mem_namesFrom (by simp) hname⟩

theorem namesIn_slash_cons (text : List Char) : namesIn ('/' :: text) = namesIn text := by
  simp [namesIn, namesFrom]

/-- Names between slashes are read as they are. -/
theorem namesIn_intercalate {names : List String} (h : ∀ name ∈ names, IsName name) :
    namesIn ("/".intercalate names).toList = names := by
  unfold namesIn
  rcases eq_or_ne names [] with rfl | hne
  · decide
  · have hfree : ∀ chars ∈ names.map String.toList, '/' ∉ chars := by
      simpa using fun name hname => (h name hname).2.2
    rw [namesFrom_eq_splitOn (by simp), List.reverse_nil, List.nil_append,
      String.toList_intercalate, show "/".toList = ['/'] from rfl,
      List.splitOn_intercalate '/' hfree (by simpa using hne), List.map_map]
    have hkept : ∀ name ∈ names, decide (name ≠ "" ∧ name ≠ ".") = true := fun name hname =>
      decide_eq_true ⟨(h name hname).1, (h name hname).2.1⟩
    simpa using List.filter_eq_self.2 hkept

/-- A root that a path can have. -/
def IsRoot (root : String) : Prop :=
  root = "" ∨ root = "/" ∨ root = "//"

/-- A path as it is read from a text. -/
structure IsProper (path : Path) : Prop where
  root : IsRoot path.root
  names : ∀ name ∈ path.parts, IsName name

theorem isProper_ofString (text : String) : (ofString text).IsProper where
  root := by
    unfold ofString rootOf
    split <;> simp [IsRoot]
  names _ h := isName_of_mem_namesIn h

theorem IsProper.below {path : Path} (h : path.IsProper) {names : List String}
    (hnames : ∀ name ∈ names, IsName name) : (path.below names).IsProper :=
  ⟨h.root, List.forall_mem_append.2 ⟨h.names, hnames⟩⟩

/-- No name in front begins with a slash. -/
theorem head?_intercalate {names : List String} (h : ∀ name ∈ names, IsName name) :
    ("/".intercalate names).toList.head? ≠ some '/' := by
  cases names with
  | nil => decide
  | cons name rest =>
    obtain ⟨⟨hfilled, -, hfree⟩, -⟩ := List.forall_mem_cons.1 h
    obtain ⟨tail, htail⟩ : ∃ tail, ("/".intercalate (name :: rest)).toList = name.toList ++ tail := by
      cases rest with
      | nil => exact ⟨[], by simp⟩
      | cons other rest =>
        exact ⟨_, by rw [String.intercalate_cons_cons, String.append_assoc, String.toList_append]⟩
    cases hname : name.toList with
    | nil => exact absurd (String.toList_eq_nil_iff.1 hname) hfilled
    | cons c chars =>
      have hc : c ≠ '/' := by
        rintro rfl
        exact hfree (hname ▸ List.mem_cons_self)
      simpa [htail, hname] using hc

theorem rootOf_append {root : String} (hroot : IsRoot root) {text : List Char}
    (h : text.head? ≠ some '/') : rootOf (root.toList ++ text) = root := by
  rcases hroot with rfl | rfl | rfl <;> cases text with
  | nil => rfl
  | cons c text =>
    have hc : c ≠ '/' := by simpa using h
    simp [rootOf, hc]

theorem namesIn_append {root : String} (hroot : IsRoot root) (text : List Char) :
    namesIn (root.toList ++ text) = namesIn text := by
  rcases hroot with rfl | rfl | rfl <;> simp [namesIn_slash_cons]

/-- A path is read from its written form. -/
theorem ofString_toString {path : Path} (h : path.IsProper) : ofString path.toString = path := by
  obtain ⟨root, parts⟩ := path
  unfold toString
  split
  · next hempty =>
    obtain ⟨rfl, rfl⟩ := hempty
    decide
  · unfold ofString
    rw [← namesIn, String.toList_append, namesIn_append h.root, namesIn_intercalate h.names,
      rootOf_append h.root (head?_intercalate h.names)]

theorem IsProper.eq_of_toString_eq {a b : Path} (ha : a.IsProper) (hb : b.IsProper)
    (h : a.toString = b.toString) : a = b := by
  rw [← ofString_toString ha, h, ofString_toString hb]

/-- Neither of two paths is the other one or leads to it. -/
def Apart (a b : Path) : Prop :=
  a.root = b.root → ¬a.parts <+: b.parts ∧ ¬b.parts <+: a.parts

instance : DecidableRel Apart :=
  fun a b => inferInstanceAs (Decidable (a.root = b.root → _))

/-- Nothing lies below both of two paths that are apart. -/
theorem Apart.below_ne {a b : Path} (h : a.Apart b) (names others : List String) :
    a.below names ≠ b.below others := by
  intro hsame
  obtain ⟨hroot, hparts⟩ := Path.mk.inj hsame
  obtain ⟨ha, hb⟩ := h hroot
  have hfirst : a.parts <+: b.parts ++ others := hparts ▸ List.prefix_append _ _
  rcases List.prefix_or_prefix_of_prefix hfirst (List.prefix_append _ _) with hab | hba
  · exact ha hab
  · exact hb hba

end Path

/-! ## What a root gives -/

variable {extensions suffixes : List String} {tree : Tree} {root : Path}

/-- A path is followed from where its names start. -/
theorem Workspace.exists_findFrom_of_find {workspace : Workspace} {path : Path} {found : Tree}
    (h : workspace.find path = .ok found) :
    ∃ above start, workspace.tree.stand? (workspace.startOf path) = some (above, start) ∧
      start.findFrom above path.parts = .ok found := by
  unfold find at h
  split at h
  · cases h
  · split at h
    · cases h
    · split at h
      · cases h
      · next above start hstand =>
        split at h
        · cases h
        · exact ⟨above, start, hstand, h⟩

theorem Workspace.isProper_of_find {workspace : Workspace} {path : Path} {found : Tree}
    (htree : workspace.tree.IsProper) (h : workspace.find path = .ok found) : found.IsProper := by
  obtain ⟨above, start, hstand, hfound⟩ := exists_findFrom_of_find h
  obtain ⟨habove, hstart⟩ := Tree.IsProper.of_standFrom? (by simp) htree hstand
  exact hstart.of_findFrom habove hfound

/-- Names that end with one of the extensions, in any case, past no name that is skipped. -/
structure IsWanted (extensions names : List String) : Prop where
  unskipped : ∀ name ∈ names, name ∉ skippedNames
  suffix : ∃ name ∈ names.getLast?, ∃ extension ∈ extensions,
    Text.lowercase (suffixOf name) = Text.lowercase extension

theorem isTaken_iff {names : List String} (hne : names ≠ []) :
    isTaken (extensions.map Text.lowercase) names = true ↔ IsWanted extensions names := by
  obtain ⟨last, hlast⟩ := Option.ne_none_iff_exists'.1 (mt List.getLast?_eq_none_iff.1 hne)
  simp only [isTaken, hlast, Option.getD_some, Bool.and_eq_true, List.all_eq_true,
    Bool.not_eq_true', List.contains_eq_mem, decide_eq_false_iff_not, decide_eq_true_eq,
    List.mem_map]
  constructor
  · rintro ⟨hkept, extension, hextension, hsame⟩
    exact ⟨hkept, last, by simp [hlast], extension, hextension, hsame.symm⟩
  · rintro ⟨hkept, name, hname, extension, hextension, hsame⟩
    obtain rfl : last = name := by simpa [hlast] using hname
    exact ⟨hkept, extension, hextension, hsame.symm⟩

/-- Names that lead to a file that is seen, and that are wanted. -/
structure Tree.IsSource (extensions : List String) (tree : Tree) (names : List String) : Prop where
  file : ∃ item isReached, tree.Shows ⟨names, item, isReached⟩ ∧ item.isDirectory = false
  wanted : IsWanted extensions names

theorem mem_takenBelow {sight : Sight} :
    sight ∈ takenBelow suffixes tree ↔ tree.Shows sight ∧ isTaken suffixes sight.names = true := by
  rw [takenBelow, List.mem_mergeSort, List.mem_filter, Tree.mem_seen_iff]

/-- The names of the files that are to be taken from a tree. -/
def sourcesBelow (suffixes : List String) (tree : Tree) : List (List String) :=
  ((takenBelow suffixes tree).filter (!·.item.isDirectory)).map Sight.names

theorem mem_sourcesBelow_iff {names : List String} :
    names ∈ sourcesBelow (extensions.map Text.lowercase) tree ↔ tree.IsSource extensions names := by
  simp only [sourcesBelow, List.mem_map, List.mem_filter, mem_takenBelow, Bool.not_eq_true']
  constructor
  · rintro ⟨⟨_, item, isReached⟩, ⟨⟨hshows, htaken⟩, hfile⟩, rfl⟩
    exact ⟨⟨item, isReached, hshows, hfile⟩, (isTaken_iff hshows.names_ne_nil).1 htaken⟩
  · rintro ⟨⟨item, isReached, hshows, hfile⟩, hwanted⟩
    exact ⟨_, ⟨⟨hshows, (isTaken_iff hshows.names_ne_nil).2 hwanted⟩, hfile⟩, rfl⟩

theorem nodup_sourcesBelow (h : tree.IsProper) : (sourcesBelow suffixes tree).Nodup := by
  have htaken : ((takenBelow suffixes tree).map Sight.names).Nodup :=
    ((List.mergeSort_perm _ _).map Sight.names).nodup_iff.2
      (h.nodup_seen.sublist (List.filter_sublist.map Sight.names))
  exact htaken.sublist (List.filter_sublist.map Sight.names)

theorem Path.below_injective (path : Path) : Function.Injective path.below := by
  intro a b h
  exact List.append_cancel_left (congrArg Path.parts h)

theorem Harvest.paths_upTo_prefix (root : Path) (sights : List Sight) :
    (upTo root sights).paths <+:
      ((sights.filter (!·.item.isDirectory)).map Sight.names).map root.below := by
  induction sights with
  | nil => exact List.prefix_rfl
  | cons sight rest ih =>
    rw [upTo]
    split
    · exact List.nil_prefix
    · split
      · next hdirectory => rwa [List.filter_cons_of_neg (by simp [hdirectory])]
      · next hfile =>
        rw [List.filter_cons_of_pos (by simp [hfile])]
        exact (List.prefix_cons_inj _).2 ih

namespace Workspace

variable {workspace : Workspace}

/-- A root gives nothing, or itself, or the first of the files taken from a directory. -/
theorem filesAt_cases (workspace : Workspace) (suffixes : List String) (root : Path) :
    (∃ fault, workspace.find root = .error fault ∧
      (workspace.filesAt suffixes root).paths = []) ∨
    (∃ item, workspace.find root = .ok item ∧ item.isDirectory = false ∧
      workspace.filesAt suffixes root = { paths := [root] }) ∨
    ∃ tree, workspace.find root = .ok tree ∧ tree.isDirectory = true ∧
      (workspace.filesAt suffixes root).paths <+: (sourcesBelow suffixes tree).map root.below := by
  unfold filesAt
  cases workspace.find root with
  | error fault => exact .inl ⟨fault, rfl, by cases fault <;> rfl⟩
  | ok tree =>
    cases hdirectory : tree.isDirectory with
    | false => exact .inr (.inl ⟨tree, rfl, hdirectory, by simp [hdirectory]⟩)
    | true =>
      refine .inr (.inr ⟨tree, rfl, hdirectory, ?_⟩)
      simp only [hdirectory, Bool.not_true, Bool.false_eq_true, if_false]
      split
      · exact List.nil_prefix
      · exact Harvest.paths_upTo_prefix root _

/-- The files of a root lie below it, or are what the root itself names. -/
theorem exists_below_of_mem_filesAt (htree : workspace.tree.IsProper) {path : Path}
    (h : path ∈ (workspace.filesAt suffixes root).paths) :
    ∃ names, path = root.below names ∧ ∀ name ∈ names, IsName name := by
  rcases filesAt_cases workspace suffixes root with
    ⟨_, -, hnone⟩ | ⟨_, -, -, hroot⟩ | ⟨tree, hfind, -, hfirst⟩
  · simp [hnone] at h
  · obtain rfl : path = root := by simpa [hroot] using h
    exact ⟨[], by simp [Path.below], by simp⟩
  · obtain ⟨_, hnames, rfl⟩ := List.mem_map.1 (hfirst.subset h)
    obtain ⟨sight, hsight, rfl⟩ := List.mem_map.1 hnames
    obtain ⟨hshows, -⟩ := mem_takenBelow.1 (List.mem_of_mem_filter hsight)
    exact ⟨sight.names, rfl, (isProper_of_find htree hfind).isName_of_shows hshows⟩

theorem isProper_of_mem_filesAt (htree : workspace.tree.IsProper) (hroot : root.IsProper)
    {path : Path} (h : path ∈ (workspace.filesAt suffixes root).paths) : path.IsProper := by
  obtain ⟨names, rfl, hnames⟩ := exists_below_of_mem_filesAt htree h
  exact hroot.below hnames

/-- A root gives each file once. -/
theorem nodup_filesAt (htree : workspace.tree.IsProper) :
    (workspace.filesAt suffixes root).paths.Nodup := by
  rcases filesAt_cases workspace suffixes root with
    ⟨_, -, hnone⟩ | ⟨_, -, -, hroot⟩ | ⟨tree, hfind, -, hfirst⟩
  · exact hnone ▸ List.nodup_nil
  · exact hroot ▸ List.nodup_singleton root
  · have hproper := isProper_of_find htree hfind
    exact ((nodup_sourcesBelow hproper).map root.below_injective).sublist hfirst.sublist

theorem filesFrom_singleton (workspace : Workspace) (suffixes : List String) (root : Path) :
    workspace.filesFrom suffixes [root] = workspace.filesAt suffixes root := by
  rw [filesFrom]
  cases hhere : workspace.filesAt suffixes root with
  | mk paths stop => cases stop <;> simp [filesFrom, Harvest.behind]

/-- A search that is not stopped gives the files of one root after another. -/
theorem paths_filesFrom {roots : List Path}
    (h : (workspace.filesFrom suffixes roots).stop = none) :
    (workspace.filesFrom suffixes roots).paths =
      roots.flatMap fun root => (workspace.filesAt suffixes root).paths := by
  induction roots with
  | nil => rfl
  | cons root rest ih =>
    rw [filesFrom] at h ⊢
    split at h
    · next hstop => simp [h] at hstop
    · next hstop =>
      rw [if_neg hstop, List.flatMap_cons, ← ih h]
      rfl

end Workspace

end SourceAudit.Files
