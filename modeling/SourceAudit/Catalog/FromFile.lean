-- Catalogs in files.

import SourceAudit.Catalog.FromDocument
import SourceAudit.Document.FromFile

namespace SourceAudit

open SourceAudit.Document
open SourceAudit.Files (Path Workspace)

/-- Why a file gives no catalog, or why it is given up. -/
inductive CatalogFileFault where
  | broken (cause : Breakdown)
  | malformed (path : Path) (fault : Yaml.Fault)
  | nothing (path : Path)
  | nameless (text : WideText)
  | content (path : Path) (fault : CatalogFault)

/-- What is said of a file that gives no catalog. -/
def CatalogFileFault.message : CatalogFileFault → WideText
  | broken cause => cause.message
  | malformed path fault => path.toString ++ ": invalid YAML: " ++ fault.message
  | nothing path => "Catalog file not found: " ++ path.toString
  | nameless text => "Catalog file not found: " ++ Path.writtenForm text
  | content path fault => fault.message path.toString

/-- The fault of a file whose document has a fault. -/
def CatalogFileFault.ofContent (path : Path) : CatalogFault → CatalogFileFault
  | .broken cause => .broken cause
  | fault => .content path fault

/-- Reads the catalog in a file. -/
def Catalog.ofFile (workspace : Workspace) (path : Path) : Except CatalogFileFault Catalog :=
  match Document.ofFile workspace path with
  | .error (.broken cause) => .error (.broken cause)
  | .error (.malformed fault) => .error (.malformed path fault)
  | .ok .null => .error (.nothing path)
  | .ok value => (Catalog.ofDocument value).mapError (.ofContent path)

/-- Reads the catalog in the file that a text names. No file has surrogates in its name. -/
def Catalog.ofNamedFile (workspace : Workspace) (text : WideText) :
    Except CatalogFileFault Catalog :=
  match text.text? with
  | some name => Catalog.ofFile workspace (Path.ofString name)
  | none => .error (.nameless text)

end SourceAudit
