-- What a search gives. A root that is a file gives itself, and one that is a directory gives, in
-- order, the files that are seen below it and have one of the suffixes, past no name that is
-- skipped. So the search of a directory finds below another one that it sees just what a search
-- from there finds.

import SourceAudit.Language
import SourceAudit.Proofs.SkippedFiles
import SourceAudit.Proofs.SortedByKey
import SourceAudit.Proofs.TakenFiles
import Mathlib.Data.List.Lex
import Mathlib.Data.List.Sort
import Mathlib.Data.String.Basic

namespace SourceAudit

/-! ## Suffixes of known languages -/

/-- The files in a known language are those with one of the suffixes in use. -/
theorem Language.ofPath_ne_unknown_iff {path : Files.Path} :
    ofPath path ≠ unknown ↔ Text.lowercase path.suffix ∈ suffixes.map Prod.fst := by
  unfold ofPath
  constructor
  · intro h
    by_contra hnone
    have hlookup : suffixes.lookup (Text.lowercase path.suffix) = none := by
      rw [List.lookup_eq_none_iff]
      intro entry hentry
      rw [bne_iff_ne]
      intro hsame
      exact hnone (hsame ▸ List.mem_map_of_mem hentry)
    exact h (by rw [hlookup]; rfl)
  · have hknown : ∀ suffix ∈ suffixes.map Prod.fst,
        (suffixes.lookup suffix).getD unknown ≠ unknown := by
      decide
    exact hknown _

theorem Language.map_lowercase_suffixes :
    (suffixes.map Prod.fst).map Text.lowercase = suffixes.map Prod.fst := by
  decide +kernel

namespace Files

open SourceAudit.Files.Tree (Sight)

/-! ## The way to something -/

namespace Tree

/-- What is found without going back is what the names lead to. -/
theorem leads_of_findFrom {above : List Tree} {tree found : Tree} {names : List String}
    (hdown : ".." ∉ names) (h : findFrom above tree names = .ok found) :
    tree.Leads names found := by
  fun_induction findFrom above tree names with
  | case1 above =>
    cases h
    exact .here _
  | case2 | case3 | case4 | case7 => cases h
  | case5 | case6 => simp at hdown
  | case8 above name rest access entries hentered hup child hchild ih =>
    obtain ⟨front, back, rfl, -⟩ := List.lookup_eq_some_iff.1 hchild
    have hrest : ".." ∉ rest := fun hmem => hdown (List.mem_cons_of_mem name hmem)
    exact .down (List.mem_append_right front List.mem_cons_self) (ih hrest h)

/-- More names are followed from what the first ones have found. -/
theorem exists_findFrom_append {above : List Tree} {tree found : Tree} {names : List String}
    (h : findFrom above tree names = .ok found) :
    ∃ before, ∀ more, findFrom above tree (names ++ more) = findFrom before found more := by
  fun_induction findFrom above tree names with
  | case1 above =>
    cases h
    exact ⟨above, fun _ => rfl⟩
  | case2 | case3 | case4 | case7 => cases h
  | case5 rest access entries hentered ih =>
    obtain ⟨before, hbefore⟩ := ih h
    exact ⟨before, fun more => by simp [findFrom, hentered, hbefore]⟩
  | case6 rest access entries hentered parent above ih =>
    obtain ⟨before, hbefore⟩ := ih h
    exact ⟨before, fun more => by simp [findFrom, hentered, hbefore]⟩
  | case8 above name rest access entries hentered hup child hchild ih =>
    obtain ⟨before, hbefore⟩ := ih h
    exact ⟨before, fun more => by simp [findFrom, hentered, hup, hchild, hbefore]⟩

/-! ## Sources -/

variable {extensions : List String}

/-- In a tree that is open throughout, the sources are all files with one of the extensions, past no
name that is skipped. -/
theorem IsOpen.isSource_iff {tree : Tree} (h : tree.IsOpen) {names : List String} :
    tree.IsSource extensions names ↔
      (∃ item, tree.Leads names item ∧ item.isDirectory = false) ∧ IsWanted extensions names := by
  constructor
  · rintro ⟨⟨item, isReached, hshows, hfile⟩, hwanted⟩
    exact ⟨⟨item, (h.shows_iff.1 hshows).2.2, hfile⟩, hwanted⟩
  · rintro ⟨⟨item, hlead, hfile⟩, hwanted⟩
    have hne : names ≠ [] := by
      rintro rfl
      obtain ⟨name, hname, -⟩ := hwanted.suffix
      simp at hname
    exact ⟨⟨item, true, h.shows_iff.2 ⟨hne, rfl, hlead⟩, hfile⟩, hwanted⟩

end Tree

/-- Behind names that are not skipped, what is wanted is told from the other names. -/
theorem isWanted_append_iff {extensions names more : List String} (hmore : more ≠ [])
    (hkept : ∀ name ∈ names, name ∉ skippedNames) :
    IsWanted extensions (names ++ more) ↔ IsWanted extensions more := by
  have hlast : (names ++ more).getLast? = more.getLast? :=
    List.getLast?_append_of_ne_nil names hmore
  constructor
  · rintro ⟨hnames, hsuffix⟩
    exact ⟨(List.forall_mem_append.1 hnames).2, hlast ▸ hsuffix⟩
  · rintro ⟨hnames, hsuffix⟩
    exact ⟨List.forall_mem_append.2 ⟨hkept, hnames⟩, hlast.symm ▸ hsuffix⟩

/-- With the suffixes in use, all that is wanted is in a known language. -/
theorem IsWanted.ofPath_ne_unknown {names : List String}
    (h : IsWanted (Language.suffixes.map Prod.fst) names) (path : Path) :
    Language.ofPath (path.below names) ≠ .unknown := by
  obtain ⟨name, hname, extension, hextension, hsame⟩ := h.suffix
  have hsuffix : (path.below names).suffix = suffixOf name := by
    rw [Path.suffix, Path.name, Path.below, List.getLast?_append, Option.mem_def.1 hname]
    rfl
  rw [Language.ofPath_ne_unknown_iff, hsuffix, hsame, ← Language.map_lowercase_suffixes]
  exact List.mem_map_of_mem hextension

variable {extensions suffixes : List String} {tree found : Tree} {names : List String}

/-- Below a directory on the way, the sources are its own ones. -/
theorem Tree.isSource_append_iff (htree : tree.IsProper) (hshows : tree.Shows ⟨names, found, true⟩)
    (hfound : found.isDirectory = true) (hkept : ∀ name ∈ names, name ∉ skippedNames)
    {more : List String} :
    tree.IsSource extensions (names ++ more) ↔ found.IsSource extensions more := by
  rcases eq_or_ne more [] with rfl | hmore
  · -- the directory itself is no file
    rw [List.append_nil]
    refine iff_of_false ?_ ?_
    · rintro ⟨⟨item, isReached, hitem, hfile⟩, -⟩
      cases htree.eq_of_shows hshows hitem rfl
      simp [hfile] at hfound
    · rintro ⟨⟨item, isReached, hitem, -⟩, -⟩
      exact hitem.names_ne_nil rfl
  · constructor
    · rintro ⟨⟨item, isReached, hitem, hfile⟩, hwanted⟩
      exact ⟨⟨item, isReached, (hshows.append_iff htree hmore).1 hitem, hfile⟩,
        (isWanted_append_iff hmore hkept).1 hwanted⟩
    · rintro ⟨⟨item, isReached, hitem, hfile⟩, hwanted⟩
      exact ⟨⟨item, isReached, (hshows.append_iff htree hmore).2 hitem, hfile⟩,
        (isWanted_append_iff hmore hkept).2 hwanted⟩

theorem byKey_namesLe : ByKey (fun a b : Sight => namesLe a.names b.names) Sight.names := by
  intro a b
  simp [namesLe]

/-- The files taken from a directory come in strict order. -/
theorem pairwise_sourcesBelow (h : tree.IsProper) :
    (sourcesBelow suffixes tree).Pairwise (· < ·) := by
  have hordered : (sourcesBelow suffixes tree).Pairwise (· ≤ ·) :=
    List.pairwise_map.2 ((byKey_namesLe.pairwise_mergeSort _).filter _)
  exact (hordered.and (nodup_sourcesBelow h)).imp fun {_ _} hab => lt_of_le_of_ne hab.1 hab.2

/-- Of the files taken from a directory, those below another one are the ones taken from there. -/
theorem filter_sourcesBelow (htree : tree.IsProper) (hproper : found.IsProper)
    (hshows : tree.Shows ⟨names, found, true⟩) (hfound : found.isDirectory = true)
    (hkept : ∀ name ∈ names, name ∉ skippedNames) :
    (sourcesBelow (extensions.map Text.lowercase) tree).filter (names <+: ·) =
      (sourcesBelow (extensions.map Text.lowercase) found).map (names ++ ·) := by
  have hfront : ((sourcesBelow (extensions.map Text.lowercase) found).map
      (names ++ ·)).Pairwise (· < ·) :=
    (pairwise_sourcesBelow hproper).map _ fun _ _ => List.append_left_lt
  refine ((pairwise_sourcesBelow htree).filter _).eq_of_mem_iff hfront fun whole => ?_
  rw [List.mem_filter, mem_sourcesBelow_iff, decide_eq_true_eq, List.mem_map]
  constructor
  · rintro ⟨hsource, more, rfl⟩
    exact ⟨more, mem_sourcesBelow_iff.2
      ((Tree.isSource_append_iff htree hshows hfound hkept).1 hsource), rfl⟩
  · rintro ⟨more, hmore, rfl⟩
    exact ⟨(Tree.isSource_append_iff htree hshows hfound hkept).2 (mem_sourcesBelow_iff.1 hmore),
      List.prefix_append names more⟩

/-! ## Roots -/

/-- The path is another one, or lies below it. -/
def Path.IsUnder (path other : Path) : Prop :=
  path.root = other.root ∧ other.parts <+: path.parts

instance : DecidableRel Path.IsUnder :=
  fun path other => inferInstanceAs (Decidable (path.root = other.root ∧ _))

theorem Path.below_isUnder_below_iff {path : Path} {names others : List String} :
    (path.below names).IsUnder (path.below others) ↔ others <+: names := by
  simp [IsUnder, below]

theorem Path.below_append (path : Path) (names more : List String) :
    path.below (names ++ more) = (path.below names).below more := by
  simp [below]

theorem Harvest.upTo_eq {root : Path} {sights : List Sight} (h : (upTo root sights).stop = none) :
    upTo root sights =
      { paths := ((sights.filter (!·.item.isDirectory)).map Sight.names).map root.below } := by
  induction sights with
  | nil => rfl
  | cons sight rest ih =>
    rw [upTo] at h ⊢
    split at h
    · cases h
    · next hnone =>
      cases hitem : sight.item.isDirectory with
      | true =>
        rw [if_pos hitem] at h
        rw [if_pos rfl, ih h, List.filter_cons_of_neg (by simp [hitem])]
      | false =>
        rw [if_neg (by simp [hitem])] at h
        rw [if_neg Bool.false_ne_true, ih h, List.filter_cons_of_pos (by simp [hitem])]
        rfl

/-- The harvest takes some paths, at least the first ones where the search is stopped. -/
structure Harvest.Takes (harvest : Harvest) (given : List Path) : Prop where
  first : harvest.paths <+: given
  whole : harvest.stop = none → harvest.paths = given

theorem Harvest.Takes.behind {harvest : Harvest} {given : List Path} (h : harvest.Takes given)
    (paths : List Path) : (harvest.behind paths).Takes (paths ++ given) where
  first := (List.prefix_append_right_inj paths).2 h.first
  whole hstop := congrArg (paths ++ ·) (h.whole hstop)

namespace Workspace

variable {workspace : Workspace} {root : Path}

/-- The files that a search is to give for a root. -/
inductive Gives (workspace : Workspace) (extensions : List String) (root : Path) :
    List Path → Prop
  | file {item : Tree} (found : workspace.find root = .ok item) (file : item.isDirectory = false) :
      Gives workspace extensions root [root]
  | directory {tree : Tree} {sources : List (List String)}
      (found : workspace.find root = .ok tree) (directory : tree.isDirectory = true)
      (ordered : sources.Pairwise (· < ·))
      (complete : ∀ names, names ∈ sources ↔ tree.IsSource extensions names) :
      Gives workspace extensions root (sources.map root.below)
  | nothing {fault : PathFault} (missing : workspace.find root = .error fault) :
      Gives workspace extensions root []

theorem filesAt_directory (hfind : workspace.find root = .ok tree)
    (hdirectory : tree.isDirectory = true) (hstop : (workspace.filesAt suffixes root).stop = none) :
    workspace.filesAt suffixes root = { paths := (sourcesBelow suffixes tree).map root.below } := by
  unfold filesAt at hstop ⊢
  rw [hfind] at hstop ⊢
  simp only [hdirectory, Bool.not_true, Bool.false_eq_true, if_false] at hstop ⊢
  split at hstop
  · cases hstop
  · exact Harvest.upTo_eq hstop

theorem exists_gives_filesAt (htree : workspace.tree.IsProper) (extensions : List String)
    (root : Path) :
    ∃ given, workspace.Gives extensions root given ∧
      (workspace.filesAt (extensions.map Text.lowercase) root).Takes given := by
  rcases filesAt_cases workspace (extensions.map Text.lowercase) root with
    ⟨fault, hfind, hnone⟩ | ⟨item, hfind, hfile, hroot⟩ | ⟨tree, hfind, hdirectory, hfirst⟩
  · exact ⟨[], .nothing hfind, hnone ▸ List.prefix_rfl, fun _ => hnone⟩
  · exact ⟨[root], .file hfind hfile, hroot ▸ List.prefix_rfl, fun _ => by rw [hroot]⟩
  · have hproper := isProper_of_find htree hfind
    exact ⟨_, .directory hfind hdirectory (pairwise_sourcesBelow hproper)
      fun _ => mem_sourcesBelow_iff, hfirst,
      fun hstop => by rw [filesAt_directory hfind hdirectory hstop]⟩

theorem exists_gives_filesFrom (htree : workspace.tree.IsProper) (extensions : List String)
    (roots : List Path) :
    ∃ given, List.Forall₂ (workspace.Gives extensions) roots given ∧
      (workspace.filesFrom (extensions.map Text.lowercase) roots).Takes given.flatten := by
  induction roots with
  | nil => exact ⟨[], .nil, List.prefix_rfl, fun _ => rfl⟩
  | cons root rest ih =>
    obtain ⟨here, hhere, htakes⟩ := exists_gives_filesAt htree extensions root
    obtain ⟨given, hgiven, hrest⟩ := ih
    refine ⟨here :: given, .cons hhere hgiven, ?_⟩
    rw [List.flatten_cons, filesFrom]
    split
    · next hstop =>
      refine ⟨htakes.first.trans (List.prefix_append _ _), fun hnone => ?_⟩
      simp [hnone] at hstop
    · next hstop =>
      rw [htakes.whole (Option.not_isSome_iff_eq_none.1 hstop)]
      exact hrest.behind here

/-- What is found below a path, without going back, is what the names lead to. -/
theorem leads_of_find_below (hroot : workspace.find root = .ok tree)
    (hbelow : workspace.find (root.below names) = .ok found) (hdown : ".." ∉ names) :
    tree.Leads names found := by
  obtain ⟨above, start, hstand, hstart⟩ := exists_findFrom_of_find hroot
  obtain ⟨above', start', hstand', hrest⟩ := exists_findFrom_of_find hbelow
  obtain ⟨rfl, rfl⟩ := Prod.mk.inj (Option.some.inj (hstand.symm.trans hstand'))
  obtain ⟨before, hbefore⟩ := Tree.exists_findFrom_append hstart
  rw [Path.below, hbefore] at hrest
  exact Tree.leads_of_findFrom hdown hrest

/-- Nothing that a search sees from a directory on its way is further off than what it sees
anyway. -/
theorem IsWithinReach.below (h : workspace.IsWithinReach extensions root)
    (htree : workspace.tree.IsProper) (hroot : workspace.find root = .ok tree)
    (hbelow : workspace.find (root.below names) = .ok found)
    (hshows : tree.Shows ⟨names, found, true⟩) (hkept : ∀ name ∈ names, name ∉ skippedNames) :
    workspace.IsWithinReach extensions (root.below names) := by
  have hproper := isProper_of_find htree hroot
  -- what is seen from the directory is seen from the root
  have hseen : ∀ sight, found.Shows sight →
      tree.Shows ⟨names ++ sight.names, sight.item, sight.isReached⟩ := fun sight hsight =>
    (hshows.append_iff hproper hsight.names_ne_nil).2 hsight
  refine ⟨by simp [hbelow], fun other sight hother hsight hdirectory => ?_,
    fun other sight hother hsight hwanted => ?_⟩
  · obtain rfl : found = other := by simpa [hbelow] using hother
    obtain ⟨hdeep, hlong⟩ := h.directories tree _ hroot (hseen sight hsight) hdirectory
    rw [List.length_append] at hdeep
    exact ⟨by omega, Path.below_append root names _ ▸ hlong⟩
  · obtain rfl : found = other := by simpa [hbelow] using hother
    have hwanted := (isWanted_append_iff hsight.names_ne_nil hkept).2 hwanted
    rw [← Path.below_append]
    exact h.wanted tree _ hroot (hseen sight hsight) hwanted

/-- A search that is not stopped finds below a directory that it sees what a search from there
finds. -/
theorem filesAt_below (htree : workspace.tree.IsProper) (hroot : workspace.find root = .ok tree)
    (hdirectory : tree.isDirectory = true)
    (hbelow : workspace.find (root.below names) = .ok found) (hfound : found.isDirectory = true)
    (hshows : tree.Shows ⟨names, found, true⟩) (hkept : ∀ name ∈ names, name ∉ skippedNames)
    (hstop : (workspace.filesAt (extensions.map Text.lowercase) root).stop = none) :
    workspace.filesAt (extensions.map Text.lowercase) (root.below names) =
      { paths := (workspace.filesAt (extensions.map Text.lowercase) root).paths.filter
          (·.IsUnder (root.below names)) } := by
  have hreach := (stop_filesAt.1 hstop).below htree hroot hbelow hshows hkept
  rw [filesAt_directory hbelow hfound (stop_filesAt.2 hreach),
    filesAt_directory hroot hdirectory hstop]
  have hunder : ((fun path => decide (Path.IsUnder path (root.below names))) ∘ root.below) =
      fun whole => decide (names <+: whole) :=
    funext fun whole => decide_eq_decide.2 Path.below_isUnder_below_iff
  rw [List.filter_map, hunder, filter_sourcesBelow (isProper_of_find htree hroot)
    (isProper_of_find htree hbelow) hshows hfound hkept, List.map_map]
  simp [Function.comp_def, Path.below_append]

/-- All that a search finds from a root lies below it. -/
theorem isUnder_of_mem_filesAt {path : Path}
    (h : path ∈ (workspace.filesAt suffixes root).paths) : path.IsUnder root := by
  rcases filesAt_cases workspace suffixes root with
    ⟨_, -, hnone⟩ | ⟨_, -, -, hself⟩ | ⟨_, -, -, hfirst⟩
  · simp [hnone] at h
  · obtain rfl : path = root := by simpa [hself] using h
    exact ⟨rfl, List.prefix_rfl⟩
  · obtain ⟨names, -, rfl⟩ := List.mem_map.1 (hfirst.subset h)
    exact ⟨rfl, List.prefix_append _ _⟩

/-- A search gives, root by root, the files that are named and the sources of the directories, each
once and in order; it stops just where something is out of reach. What it gives for a directory on
the way that it sees is what it gives below there; where a tree is open throughout, it sees every
directory, and the sources are all files with one of the extensions, past no name that is skipped.
And all that it gives for a directory is in a known language, when it looks for the suffixes in
use. -/
theorem a_search_gives_the_sources_of_each_root_in_order (workspace : Workspace)
    (extensions : List String) (roots : List Path) (htree : workspace.tree.IsProper) :
    (∃ given, List.Forall₂ (workspace.Gives extensions) roots given ∧
      (workspace.filesAtRoots extensions roots).Takes given.flatten) ∧
    ((workspace.filesAtRoots extensions roots).stop = none ↔
      ∀ root ∈ roots, workspace.IsWithinReach extensions root) ∧
    (∀ root tree names found, workspace.find root = .ok tree → tree.isDirectory = true →
      workspace.find (root.below names) = .ok found → found.isDirectory = true →
      (∀ name ∈ names, name ≠ ".." ∧ name ∉ skippedNames) →
      tree.IsOpen ∨ tree.Shows ⟨names, found, true⟩ →
      (workspace.filesAtRoots extensions [root]).stop = none →
        workspace.filesAtRoots extensions [root.below names] =
          { paths := (workspace.filesAtRoots extensions [root]).paths.filter
              (·.IsUnder (root.below names)) }) ∧
    (∀ (tree : Tree) names, tree.IsOpen → (tree.IsSource extensions names ↔
      (∃ item, tree.Leads names item ∧ item.isDirectory = false) ∧ IsWanted extensions names)) ∧
    (∀ root tree, workspace.find root = .ok tree → tree.isDirectory = true →
      ∀ path ∈ (workspace.filesAtRoots (Language.suffixes.map Prod.fst) [root]).paths,
        Language.ofPath path ≠ .unknown) := by
  refine ⟨exists_gives_filesFrom htree extensions roots, stop_filesFrom, ?_,
    fun _ _ hopen => hopen.isSource_iff, ?_⟩
  · intro root tree names found hroot hdirectory hbelow hfound hnames hseen hstop
    simp only [filesAtRoots, filesFrom_singleton] at hstop ⊢
    rcases eq_or_ne names [] with rfl | hne
    · -- the directory is the root itself
      have hself : root.below [] = root := by simp [Path.below]
      have hall : (workspace.filesAt (extensions.map Text.lowercase) root).paths.filter
          (·.IsUnder root) = (workspace.filesAt (extensions.map Text.lowercase) root).paths :=
        List.filter_eq_self.2 fun path hpath => decide_eq_true (isUnder_of_mem_filesAt hpath)
      rw [hself, hall, ← hstop]
    · have hshows : tree.Shows ⟨names, found, true⟩ := hseen.elim (fun hopen =>
        hopen.shows_iff.2 ⟨hne, rfl,
          leads_of_find_below hroot hbelow fun hup => (hnames _ hup).1 rfl⟩) id
      exact filesAt_below htree hroot hdirectory hbelow hfound hshows
        (fun name hname => (hnames name hname).2) hstop
  · intro root tree hroot hdirectory path hpath
    rw [filesAtRoots, filesFrom_singleton] at hpath
    obtain ⟨given, hgives, htakes⟩ :=
      exists_gives_filesAt htree (Language.suffixes.map Prod.fst) root
    have hgiven := htakes.first.subset hpath
    cases hgives with
    | file found file =>
      obtain rfl := Except.ok.inj (hroot.symm.trans found)
      simp [hdirectory] at file
    | nothing missing => simp [hroot] at missing
    | directory found directory ordered complete =>
      obtain ⟨names, hnames, rfl⟩ := List.mem_map.1 hgiven
      exact ((complete names).1 hnames).wanted.ofPath_ne_unknown root


/-- Files that lie beside a directory and below it, some of them not to be taken. -/
def nested : Workspace where
  tree := .directory {}
    [("b", .directory {}
      [("c.PY", .file [33]), ("venv", .directory {} [("d.py", .file [33])]), ("e.txt", .file [])]),
    ("b.py", .file [33]), ("a.py", .file [33])]
  here := []

theorem nested_isProper : nested.tree.IsProper := by
  refine .directory _ _ (by decide) (by decide) ?_
  simp only [List.forall_mem_cons]
  refine ⟨.directory _ _ (by decide) (by decide) ?_, .file _, .file _, by simp⟩
  simp only [List.forall_mem_cons]
  refine ⟨.file _, .directory _ _ (by decide) (by decide) ?_, .file _, by simp⟩
  simpa using .file _

theorem sourcesBelow_nested :
    sourcesBelow [".py"] nested.tree = [["a.py"], ["b", "c.PY"], ["b.py"]] := by
  have hseen : ((nested.tree.seen.filter (isTaken [".py"] ·.names)).filter
      (!·.item.isDirectory)).map Sight.names = [["b", "c.PY"], ["b.py"], ["a.py"]] := by
    decide +kernel
  have hperm : (sourcesBelow [".py"] nested.tree).Perm [["a.py"], ["b", "c.PY"], ["b.py"]] :=
    (((List.mergeSort_perm _ _).filter _).map _).trans (hseen ▸ by decide)
  exact hperm.eq_of_pairwise (fun _ _ _ _ => le_antisymm)
    ((pairwise_sourcesBelow nested_isProper).imp le_of_lt) (by decide)

theorem isWithinReach_nested : nested.IsWithinReach [".py"] ⟨"", []⟩ := by
  have hclear : ∀ sight ∈ nested.tree.seen, sight.names.length ≤ searchLimit ∧
      (Path.below ⟨"", []⟩ sight.names).isTooLong = false ∧ sight.isReached = true := by
    decide +kernel
  have hfind : nested.find ⟨"", []⟩ = .ok nested.tree := rfl
  refine ⟨by simp [hfind], fun tree sight hroot hshows _ => ?_, fun tree sight hroot hshows _ => ?_⟩
  · cases hfind.symm.trans hroot
    obtain ⟨hdeep, hlong, -⟩ := hclear sight (Tree.mem_seen_iff.2 hshows)
    exact ⟨hdeep, hlong⟩
  · cases hfind.symm.trans hroot
    exact (hclear sight (Tree.mem_seen_iff.2 hshows)).2

theorem a_search_of_nested_gives_its_sources_in_order :
    nested.tree.IsProper ∧
      nested.filesAtRoots [".py"] [⟨"", []⟩] =
        { paths := [⟨"", ["a.py"]⟩, ⟨"", ["b", "c.PY"]⟩, ⟨"", ["b.py"]⟩] } ∧
      nested.filesAtRoots [".py"] [⟨"", ["b"]⟩] = { paths := [⟨"", ["b", "c.PY"]⟩] } := by
  have hwhole : nested.filesAtRoots [".py"] [⟨"", []⟩] =
      { paths := [⟨"", ["a.py"]⟩, ⟨"", ["b", "c.PY"]⟩, ⟨"", ["b.py"]⟩] } := by
    have hlowercase : [".py"].map Text.lowercase = [".py"] := by decide +kernel
    have hstop : (nested.filesAt [".py"] ⟨"", []⟩).stop = none :=
      hlowercase ▸ stop_filesAt.2 isWithinReach_nested
    rw [filesAtRoots, filesFrom_singleton, hlowercase, filesAt_directory rfl rfl hstop]
    exact congrArg (Harvest.mk · none) (congrArg (List.map _) sourcesBelow_nested)
  obtain ⟨-, -, hbelow, -⟩ :=
    a_search_gives_the_sources_of_each_root_in_order nested [".py"] [⟨"", []⟩] nested_isProper
  have hunder := hbelow ⟨"", []⟩ _ ["b"] _ rfl rfl rfl rfl (by decide)
    (.inr (.here rfl List.mem_cons_self)) (by rw [hwhole])
  rw [hwhole] at hunder
  exact ⟨nested_isProper, hwhole, hunder⟩

/-- Where nothing is, a root gives no files. But one whose name is too long stops the search. -/
theorem a_missing_root_with_a_long_name_stops_the_search :
    Catalog.emptyDirectory.tree.IsProper ∧
      Catalog.emptyDirectory.filesAtRoots [".py"] [⟨"", ["x"]⟩] = {} ∧
      (∀ found, Catalog.emptyDirectory.find
        ⟨"", [String.ofList (List.replicate 256 'x')]⟩ ≠ .ok found) ∧
      Catalog.emptyDirectory.filesAtRoots [".py"]
        [⟨"", [String.ofList (List.replicate 256 'x')]⟩] = .stopped .pathTooLong := by
  refine ⟨.directory {} [] (by simp) (by simp) (by simp), by decide +kernel, fun found => ?_,
    Catalog.filesAtRoots_replicate (by decide) _⟩
  rw [Catalog.find_replicate (by decide)]
  exact nofun

end Workspace

end Files

end SourceAudit
