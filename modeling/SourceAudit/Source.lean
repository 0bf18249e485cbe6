-- Source code as it is handed to a scan: code points, bytes, or something that is no text at
-- all. Only what can be written in UTF-8 is scanned.

import SourceAudit.Text.Utf8
import SourceAudit.Document.Value

namespace SourceAudit

open SourceAudit.Document
open SourceAudit.Text (CodePoint Utf8Fault Utf8Problem SurrogateFault)

/-- What a caller wants to have scanned. -/
inductive Source where
  | points (points : List CodePoint)
  | bytes (bytes : List UInt8)
  | other (value : Value)

/-- Why a source cannot be scanned. -/
inductive SourceFault where
  | notUtf8 (fault : Utf8Fault)
  | surrogates (fault : SurrogateFault)
  | noText (kind : String)
  deriving DecidableEq, Repr

namespace Source

/-- A text as a source. -/
def ofString (text : String) : Source :=
  .points (text.toList.map CodePoint.ofChar)

/-- The text of a source. -/
def decode : Source → Except SourceFault String
  | points ps =>
    match Text.readCodePoints ps with
    | .ok cs => .ok (String.ofList cs)
    | .error fault => .error (.surrogates fault)
  | bytes bs =>
    match Text.readUtf8 bs with
    | .ok cs => .ok (String.ofList cs)
    | .error fault => .error (.notUtf8 fault)
  | other value => .error (.noText value.kindName)

end Source

/-! ## What is said of a source that cannot be scanned -/

/-- The reason in words. -/
def reason : Utf8Problem → String
  | .startByte => "invalid start byte"
  | .continuationByte => "invalid continuation byte"
  | .endOfData => "unexpected end of data"

/-- One position, or the first and the last of several. -/
def span (position length : Nat) : String :=
  if length = 1 then toString position
  else toString position ++ "-" ++ toString (position + length - 1)

/-- What is said of bytes that are not UTF-8. -/
def utf8Message (fault : Utf8Fault) : String :=
  let what :=
    if fault.length = 1 then
      "byte 0x" ++ String.ofList (Text.hexDigits 2 fault.lead.toNat) ++ " in position "
    else "bytes in position "
  "'utf-8' codec can't decode " ++ what ++ span fault.position fault.length ++ ": " ++
    reason fault.problem

/-- What is said of code points that have no form in UTF-8. -/
def surrogateMessage (fault : SurrogateFault) : String :=
  let what :=
    if fault.length = 1 then
      "character '\\u" ++ String.ofList (Text.hexDigits 4 fault.point.val) ++ "' in position "
    else "characters in position "
  "'utf-8' codec can't encode " ++ what ++ span fault.position fault.length ++
    ": surrogates not allowed"

/-- What is said of a source that cannot be scanned. -/
def SourceFault.message : SourceFault → String
  | notUtf8 fault => "Source is not valid UTF-8: " ++ utf8Message fault
  | surrogates fault => "Source text cannot be encoded as UTF-8: " ++ surrogateMessage fault
  | noText kind => "Source must be text or UTF-8 bytes, got " ++ kind

end SourceAudit
