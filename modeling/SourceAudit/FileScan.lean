-- Scanning a file. Its language is told from its name unless one is forced, and a file that is too
-- large is not looked into.

import SourceAudit.Files.Workspace
import SourceAudit.Scan

namespace SourceAudit

open SourceAudit.Files (Path ReadFault Workspace)

/-- What the scan of a file is told besides the path. -/
structure FileScanOptions where
  language : Option Language := none
  maxSize : Option Int := none
  resolveFixes : Bool := true
  deriving DecidableEq, Repr

/-- Why the scan of a file gives no report. -/
inductive FileScanFault where
  | unreadable (fault : ReadFault)
  | tooLarge (path : Path) (size : Nat) (limit : Int)
  | scan (fault : ScanFault)
  deriving DecidableEq, Repr

/-- What is said of a file that is too large. -/
def tooLargeMessage (path : Path) (size : Nat) (limit : Int) : String :=
  path.toString ++ ": " ++ toString size ++ " bytes exceeds limit of " ++ toString limit

namespace FileScanOptions

/-- The language of a file. -/
def languageOf (options : FileScanOptions) (path : Path) : Language :=
  options.language.getD (Language.ofPath path)

/-- A size is within the limit. -/
def admits (options : FileScanOptions) (size : Nat) : Bool :=
  match options.maxSize with
  | some limit => size ≤ limit
  | none => true

end FileScanOptions

namespace Catalog

/-- Looks for findings in a file. Its size is looked at before it is read. -/
def inspectFile (catalog : Catalog) (workspace : Workspace) (path : Path)
    (options : FileScanOptions) : Except FileScanFault Inspection :=
  match workspace.findFile path with
  | .error fault => .error (.unreadable fault)
  | .ok found =>
    if options.admits found.size then
      match found.bytes? with
      | some bytes =>
        (catalog.inspect (.bytes bytes) (options.languageOf path)
          { file := some path.toString, resolveFixes := options.resolveFixes }).mapError .scan
      | none => .error (.unreadable .denied)
    else .error (.tooLarge path found.size (options.maxSize.getD 0))

/-- Scans a file. -/
def scanFile (catalog : Catalog) (workspace : Workspace) (path : Path)
    (options : FileScanOptions) : Except FileScanFault Report :=
  (catalog.inspectFile workspace path options).map Inspection.report

end Catalog

end SourceAudit
