-- Findings: one for each rule and line, with all that the rule has to say.

import SourceAudit.Severity

namespace SourceAudit

/-- What has become of a finding. -/
inductive FindingStatus where
  | opened
  | fixed
  | ignored
  deriving DecidableEq, Repr

/-- The name of a status in reports. -/
def FindingStatus.name : FindingStatus → String
  | opened => "open"
  | fixed => "fixed"
  | ignored => "ignored"

/-- Where a finding is. The file is known to whoever read it. -/
structure Location where
  line : Int
  column : Option Int := none
  file : Option String := none
  deriving DecidableEq, Repr

/-- A rule's match on one line. -/
structure Finding where
  id : String
  rule : WideText
  type : WideText
  severity : Severity
  location : Location
  description : WideText
  matchedCode : String
  cwe : Option WideText := none
  references : List WideText := []
  suggestedFix : Option WideText := none
  status : FindingStatus := .opened
  deriving DecidableEq, Repr

namespace Finding

/-- The type of records that older callers write for clean files. They are not findings. -/
def noIssuesType : WideText := "No Issues Detected"

/-- The record only says that a file is clean. -/
def isPlaceholder (finding : Finding) : Bool :=
  finding.type == noIssuesType

/-- The same finding, with the file it is in. -/
def inFile (finding : Finding) (file : String) : Finding :=
  { finding with location := { finding.location with file := some file } }

end Finding

end SourceAudit
