-- The command on a real file system. The files that a run may look at are read beforehand; what
-- becomes of them is decided by the run.

import SourceAudit.Command.Run

namespace SourceAudit.Main

open SourceAudit.Command
open SourceAudit.Files (Path Tree Workspace)

/-- How the command is called. -/
def usage : String :=
  "usage: vulnscan [-h] [--source PATH] [--config FILE] [--rules FILE] [--language TAG] " ++
    "[--fail-on SEVERITY] [--format json] [--out FILE] [--no-fixes] [--strict] [--verbose]"

/-- The place that names from the top of the file system lead to. -/
def place (names : List String) : String :=
  "/" ++ "/".intercalate names

/-- Reads a file. Of one that may not be read, and of one that is not wanted, only the size is
told. -/
def readFile (wanted : Bool) (names : List String) (size : Nat) : IO Tree := do
  if !wanted then return .sealed size
  match ← (IO.FS.readBinFile (place names)).toBaseIO with
  | .ok bytes => return .file bytes.toList
  | .error _ => return .sealed size

/-- Reads a file or a directory with what lies below it. Files below names that nothing is taken
from are not wanted. Whatever is neither a file nor a directory is left out. Links are followed
where they are named, but not where a search comes upon them. -/
partial def readTree (wanted named : Bool) (names : List String) : IO (Option Tree) := do
  let spot := (← IO.currentDir) / place names
  let found ← spot.metadata
  match found.type with
  | .file => return some (← readFile wanted names found.byteSize.toNat)
  | .dir =>
    let isLink := (← spot.symlinkMetadata).type matches .symlink
    if isLink && !named then return some (.directory { listed := false } [])
    match ← spot.readDir.toBaseIO with
    | .error _ => return some (.directory { listed := false } [])
    | .ok found =>
      let mut entries : List (String × Tree) := []
      let mut entered := true
      for entry in found do
        let name := entry.fileName
        let wanted := wanted && !Files.skippedNames.contains name
        match ← (readTree wanted false (names ++ [name])).toBaseIO with
        | .ok (some tree) => entries := (name, tree) :: entries
        | .error (.permissionDenied ..) =>
          entered := false
          entries := (name, .sealed 0) :: entries
        | _ => pure ()
      return some (.directory { entered } entries)
  | _ => return none

/-- The names from the top to a path. -/
def namesOf (workspace : Workspace) (path : Path) : List String :=
  path.parts.foldl (fun names name => if name = ".." then names.dropLast else names ++ [name])
    (workspace.startOf path)

/-- A tree in which a directory may not be gone through. -/
def closed (tree : Tree) (names : List String) : Tree :=
  match tree.stand? names with
  | some (_, .directory access entries) =>
    tree.put names (.directory { access with entered := false } entries)
  | _ => tree

/-- Reads what a path leads to, and the directories on the way. Without `whole`, what lies in the
directory at the end is left out. -/
def readPath (whole : Bool) (workspace : Workspace) (path : Path) : IO Workspace := do
  let mut tree := workspace.tree
  let mut names := workspace.startOf path
  for name in path.parts do
    if name == ".." then names := names.dropLast
    else
      names := names ++ [name]
      let spot := (← IO.currentDir) / place names
      if ← spot.isDir then
        unless (tree.stand? names).isSome do tree := tree.put names .empty
      else
        match ← (readTree true true names).toBaseIO with
        | .ok (some found) => tree := tree.put names found
        | .error (.permissionDenied ..) => tree := closed tree names.dropLast
        | _ => pure ()
  if whole then
    if let .ok (some found) ← (readTree true true names).toBaseIO then
      tree := tree.put names found
  return { workspace with tree := tree }

/-- Reads the files that a run with some settings may look at. What lies above comes first, so that
nothing that has been read is lost. -/
def readFiles (start : Workspace) (settings : Settings) : IO Workspace := do
  let mut workspace := start
  for root in (rootsOf settings).1.mergeSort fun a b =>
      (namesOf start a).length ≤ (namesOf start b).length do
    workspace ← readPath true workspace root
  let configPath := ((settings.config.bind Operand.text?).map Path.ofString).getD
    Config.defaultPath
  workspace ← readPath false workspace configPath
  if let .ok config := configOf workspace settings then
    if let some rules := config.rulesPath.bind WideText.text? then
      workspace ← readPath false workspace (.ofString rules)
  if let some destination := given settings.output then
    workspace ← readPath false workspace (.ofString destination)
  return workspace

/-- Writes the report of a run to its destination. -/
def writeReport (completion : Completion) : IO Unit := do
  if let .written destination := completion.delivery then
    let spot := (← IO.currentDir) / destination
    if let some parent := spot.parent then IO.FS.createDirAll parent
    IO.FS.writeFile spot (Completion.payload completion.report completion.threshold)

/-- A text as messages show it, where an escape stands for a surrogate. -/
def escaped (text : WideText) : String :=
  String.ofList (text.points.flatMap fun p =>
    match p.toChar? with
    | some c => [c]
    | none => '\\' :: 'u' :: Text.hexDigits 4 p.val)

/-- Runs the command, and gives the number that it ends with. An overview with surrogates cannot be
printed, and nothing is written then. -/
def runCommand (arguments : List String) : IO UInt32 := do
  let here := (Path.ofString (toString (← IO.currentDir))).parts
  let start ← readPath false ⟨.empty, here⟩ (.ofString (place here))
  let workspace ← match Wish.ofArguments arguments with
    | .ok (.run settings) => readFiles start settings
    | _ => pure start
  let done := run workspace arguments
  match done.ending with
  | .help => IO.println usage
  | .refused _ => IO.eprintln usage
  | .stopped cause => IO.eprintln cause.message
  | .completed _ => pure ()
  IO.eprint (escaped done.messages)
  match done.ending.output.text? with
  | some output =>
    if let .completed completion := done.ending then writeReport completion
    IO.print output
    return UInt32.ofNat done.ending.exitCode
  | none =>
    IO.eprintln "the overview cannot be written in UTF-8"
    return 1

end SourceAudit.Main

def main (arguments : List String) : IO UInt32 :=
  SourceAudit.Main.runCommand arguments
