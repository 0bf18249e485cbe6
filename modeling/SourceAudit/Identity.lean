-- Identifiers of scans and of findings. Both are digests: what is digested is a payload that
-- can be looked at on its own.

import SourceAudit.Language
import SourceAudit.Digest.Sha256
import SourceAudit.Text.Utf8

namespace SourceAudit.Identity

/-- The bytes of a text. -/
def bytes (text : String) : List UInt8 :=
  Text.utf8 text.toList

/-- What the fingerprint of a scan digests: the language, the file if there is one, and the
code, with a zero byte behind each but the last. -/
def fingerprintPayload (language : Language) (file : Option String) (code : String) : List UInt8 :=
  let fileBytes := match file with
    | some file => bytes file ++ [0]
    | none => []
  bytes language.name ++ [0] ++ fileBytes ++ bytes code

/-- The fingerprint of a scan: sixteen hexadecimal digits. -/
def fingerprint (language : Language) (file : Option String) (code : String) : String :=
  String.ofList ((Digest.sha256Hex (fingerprintPayload language file code)).take 16)

/-- What the identifier of a finding digests: the seed of the scan, the rule, the line, and how
many findings of the rule come before it. -/
def findingPayload (seed rule : String) (line occurrence : Int) : String :=
  seed ++ ":" ++ rule ++ ":" ++ toString line ++ ":" ++ toString occurrence

/-- The identifier of a finding. -/
def findingId (seed rule : String) (line occurrence : Int) : String :=
  let digest := Digest.sha256Hex (bytes (findingPayload seed rule line occurrence))
  "vuln-" ++ String.ofList (digest.take 12)

end SourceAudit.Identity
