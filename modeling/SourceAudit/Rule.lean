-- Rules: what to look for, how grave it is, and what to do about it.

import SourceAudit.Severity
import SourceAudit.Language
import SourceAudit.Pattern.Hits

namespace SourceAudit

/-- Remediation guidance: why an issue matters, and a piece of code before and after. Either
piece may be missing, and is empty then. -/
structure FixTemplate where
  rationale : WideText
  before : WideText := ""
  after : WideText := ""
  deriving DecidableEq, Repr

/-- One rule. Languages are listed once each in the order of their tags; a rule without any
holds for all of them. -/
structure Rule where
  id : WideText
  type : WideText
  severity : Severity
  languages : List Language
  pattern : Pattern
  description : WideText
  fix : FixTemplate
  cwe : Option WideText := none
  references : List WideText := []
  deriving Repr

/-- The rule is to be used on sources of a language. -/
def Rule.appliesTo (rule : Rule) (language : Language) : Bool :=
  rule.languages.isEmpty || rule.languages.contains language

end SourceAudit
