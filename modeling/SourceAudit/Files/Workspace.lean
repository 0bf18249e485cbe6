-- The files that a run sees, and the directory it stands in. Paths are taken from there; a file
-- is written by making the directories that it lies in first.

import SourceAudit.Files.Path
import SourceAudit.Files.Tree
import SourceAudit.Text.Quoted

namespace SourceAudit.Files

/-- A tree of files, and the names that lead to the current directory. -/
structure Workspace where
  tree : Tree
  here : List String

/-- Why a file cannot be read. -/
inductive ReadFault where
  | missing
  | notDirectory
  | isDirectory
  | denied
  | tooLong
  | containsZero
  deriving DecidableEq, Repr

/-- Why a file cannot be written. -/
inductive WriteFault where
  | notDirectory
  | isDirectory
  | fileInTheWay
  | denied
  | tooLong
  | containsZero
  deriving DecidableEq, Repr

/-- What the system says of a path, under a number of its own. -/
def systemMessage (number : Nat) (words : String) (path : Path) : String :=
  "[Errno " ++ toString number ++ "] " ++ words ++ ": " ++ Text.quoted path.toString

/-- What is said of a file that cannot be read. -/
def ReadFault.message (path : Path) : ReadFault → String
  | missing => systemMessage 2 "No such file or directory" path
  | denied => systemMessage 13 "Permission denied" path
  | notDirectory => systemMessage 20 "Not a directory" path
  | isDirectory => systemMessage 21 "Is a directory" path
  | tooLong => systemMessage 36 "File name too long" path
  | containsZero => "embedded null byte"

/-- What is said of a file that cannot be written. -/
def WriteFault.message : WriteFault → String
  | notDirectory => "Not a directory"
  | isDirectory => "Is a directory"
  | fileInTheWay => "File exists"
  | denied => "Permission denied"
  | tooLong => "File name too long"
  | containsZero => "embedded null byte"

namespace Workspace

/-- The names that lead to where a path is followed from. -/
def startOf (workspace : Workspace) (path : Path) : List String :=
  if path.root = "" then workspace.here else []

/-- What a path leads to. A relative one is followed from the current directory, which has to be
open. -/
def find (workspace : Workspace) (path : Path) : Except PathFault Tree :=
  if path.containsZero then .error .containsZero
  else if path.isTooLong then .error .tooLong
  else
    match workspace.tree.stand? (workspace.startOf path) with
    | none => .error .missing
    | some (above, start) =>
      if path.root = "" ∧ start.isClosed then .error .denied
      else start.findFrom above path.parts

/-- A file as it is found: its size, and its bytes if it may be read. -/
structure FoundFile where
  size : Nat
  bytes? : Option (List UInt8)
  deriving DecidableEq, Repr

/-- The file at a path. -/
def findFile (workspace : Workspace) (path : Path) : Except ReadFault FoundFile :=
  match workspace.find path with
  | .ok (.file bytes) => .ok ⟨bytes.length, some bytes⟩
  | .ok (.sealed size) => .ok ⟨size, none⟩
  | .ok (.directory _ _) => .error .isDirectory
  | .error .missing => .error .missing
  | .error .notDirectory => .error .notDirectory
  | .error .denied => .error .denied
  | .error .tooLong => .error .tooLong
  | .error .containsZero => .error .containsZero

/-- The bytes of the file at a path. -/
def readFile (workspace : Workspace) (path : Path) : Except ReadFault (List UInt8) :=
  match workspace.findFile path with
  | .ok ⟨_, some bytes⟩ => .ok bytes
  | .ok ⟨_, none⟩ => .error .denied
  | .error fault => .error fault

/-! ## Writing -/

/-- The tree at a place given by names from the top, nearest first. -/
def treeAt? (tree : Tree) (place : List String) : Option Tree :=
  (tree.stand? place.reverse).map Prod.snd

/-- Makes the directories that names lead through, from a place given by names from the top,
nearest first. Gives the tree and the place at the end. -/
def makeDirectories (tree : Tree) (place : List String) :
    List String → Except WriteFault (Tree × List String)
  | [] => .ok (tree, place)
  | name :: rest =>
    if (treeAt? tree place).any Tree.isClosed then .error .denied
    else if name = ".." then makeDirectories tree place.tail rest
    else if isTooLong name then .error .tooLong
    else
      let next := name :: place
      match treeAt? tree next with
      | some (.directory _ _) => makeDirectories tree next rest
      | some _ => .error (if rest.isEmpty then .fileInTheWay else .notDirectory)
      | none => makeDirectories (tree.put next.reverse .empty) next rest

/-- Writes a file, and makes the directories that it lies in. -/
def writeFile (workspace : Workspace) (path : Path) (bytes : List UInt8) :
    Except WriteFault Workspace := do
  if path.containsZero then throw .containsZero
  if path.isTooLong then throw .tooLong
  let (tree, place) ←
    makeDirectories workspace.tree (workspace.startOf path).reverse path.parts.dropLast
  match path.parts.getLast? with
  | none => .error .isDirectory
  | some name =>
    if (treeAt? tree place).any Tree.isClosed then .error .denied
    else if name = ".." then .error .isDirectory
    else if isTooLong name then .error .tooLong
    else
      let target := name :: place
      match treeAt? tree target with
      | some (.directory _ _) => .error .isDirectory
      | some (.sealed _) => .error .denied
      | _ => .ok { workspace with tree := tree.put target.reverse (.file bytes) }

end Workspace

end SourceAudit.Files
