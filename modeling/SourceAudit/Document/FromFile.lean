-- Documents in files. A file that is missing and a file without content both hold nothing.

import SourceAudit.Document.Yaml.Read
import SourceAudit.Files.Workspace
import SourceAudit.Text.Utf8

namespace SourceAudit.Document

open SourceAudit.Files (Path Workspace)

/-- Why a file holds no document, or why it is given up. -/
inductive FileFault where
  | broken (cause : Breakdown)
  | malformed (fault : Yaml.Fault)
  deriving DecidableEq, Repr

/-- Reads the bytes of a document. -/
def ofBytes (bytes : List UInt8) : Except FileFault Value :=
  match Text.readUtf8 bytes with
  | .error fault => .error (.broken (.notUtf8 fault))
  | .ok text =>
    match Yaml.read text with
    | .ok value => .ok value
    | .error (.broken cause) => .error (.broken cause)
    | .error fault => .error (.malformed fault)

/-- Reads the document in a file. -/
def ofFile (workspace : Workspace) (path : Path) : Except FileFault Value :=
  match workspace.find path with
  | .error .tooLong => .error (.broken .pathTooLong)
  | .error .denied => .error (.broken .accessDenied)
  | .error _ => .ok .null
  | .ok (.directory _ _) => .error (.broken .isDirectory)
  | .ok (.sealed _) => .error (.broken .accessDenied)
  | .ok (.file bytes) => ofBytes bytes

end SourceAudit.Document
