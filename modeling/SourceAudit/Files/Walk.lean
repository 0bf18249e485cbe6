-- Which files a run looks at. A file that is named is taken as it is; a directory is searched for
-- files with certain suffixes, except below some names that hold no sources of one's own. A search
-- passes over directories that do not show what lies in them, but some obstacles stop it.

import SourceAudit.Breakdown
import SourceAudit.Files.Workspace
import SourceAudit.Text.LetterCase

namespace SourceAudit.Files

open SourceAudit.Files.Tree (Sight)

/-! ## What is taken -/

/-- Names that nothing is taken from. -/
def skippedNames : List String :=
  [".git", ".hg", ".svn", "node_modules", "__pycache__", ".venv", "venv"]

/-- A file below a directory is taken: it has one of the suffixes, in any case, and no name on
the way to it is skipped. -/
def isTaken (suffixes names : List String) : Bool :=
  names.all (fun name => !skippedNames.contains name) &&
    suffixes.contains (Text.lowercase (suffixOf (names.getLast?.getD "")))

/-- The order of code points, name by name. -/
def namesLe (a b : List String) : Bool :=
  !(b < a)

/-- What is to be taken from a directory, in the order of the names that lead there. Directories
are still among it. -/
def takenBelow (suffixes : List String) (tree : Tree) : List Sight :=
  (tree.seen.filter fun sight => isTaken suffixes sight.names).mergeSort fun a b =>
    namesLe a.names b.names

/-! ## Obstacles -/

/-- How deep directories may lie below the one that is searched. -/
def searchLimit : Nat := 986

/-- What keeps a search from looking at something that it has seen from a root. A directory is gone
through by its path, even if the way to it is closed. -/
def Tree.Sight.obstacle? (root : Path) (sight : Sight) : Option Breakdown :=
  if !sight.item.isDirectory then none
  else if searchLimit < sight.names.length then some .nestedTooDeep
  else if (root.below sight.names).isTooLong then some .pathTooLong
  else none

/-- What keeps a search from telling whether something at a path is a file. -/
def barrier? (path : Path) (isReached : Bool) : Option Breakdown :=
  if path.isTooLong then some .pathTooLong
  else if !isReached then some .accessDenied
  else none

/-! ## Searches -/

/-- The files taken from roots, and what stopped the search before its end, if anything did. -/
structure Harvest where
  paths : List Path := []
  stop : Option Breakdown := none
  deriving DecidableEq, Repr

/-- A harvest with other files in front. -/
def Harvest.behind (harvest : Harvest) (paths : List Path) : Harvest :=
  { harvest with paths := paths ++ harvest.paths }

/-- A search that is stopped. -/
def Harvest.stopped (cause : Breakdown) : Harvest :=
  { stop := some cause }

/-- The files among what is to be taken below a root, up to the first thing that cannot be looked
at. -/
def Harvest.upTo (root : Path) : List Sight → Harvest
  | [] => {}
  | sight :: rest =>
    match barrier? (root.below sight.names) sight.isReached with
    | some cause => .stopped cause
    | none =>
      if sight.item.isDirectory then upTo root rest
      else (upTo root rest).behind [root.below sight.names]

namespace Workspace

/-- The files taken from one root. A root that is missing gives none. All directories below a root
are gone through before any file is taken. -/
def filesAt (workspace : Workspace) (suffixes : List String) (root : Path) : Harvest :=
  match workspace.find root with
  | .error .tooLong => .stopped .pathTooLong
  | .error .denied => .stopped .accessDenied
  | .error _ => {}
  | .ok tree =>
    if !tree.isDirectory then { paths := [root] }
    else
      match tree.seen.findSome? (·.obstacle? root) with
      | some cause => .stopped cause
      | none => .upTo root (takenBelow suffixes tree)

/-- The files taken from roots that follow one another, up to where the search is stopped. -/
def filesFrom (workspace : Workspace) (suffixes : List String) : List Path → Harvest
  | [] => {}
  | root :: rest =>
    let here := workspace.filesAt suffixes root
    if here.stop.isSome then here
    else (workspace.filesFrom suffixes rest).behind here.paths

/-- The files taken from several roots, root by root. -/
def filesAtRoots (workspace : Workspace) (extensions : List String) (roots : List Path) :
    Harvest :=
  workspace.filesFrom (extensions.map Text.lowercase) roots

end Workspace

end SourceAudit.Files
