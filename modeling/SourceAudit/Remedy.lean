-- Remediation texts. A finding gets the template of its own rule, or else the one for its type
-- of issue, or else a general checklist.

import SourceAudit.Catalog.Basic
import SourceAudit.Finding
import SourceAudit.Text.Indent

namespace SourceAudit

/-- The checklist for issues that no template is registered for. -/
def genericFix : WideText := .intercalate "\n" [
  "No specific remediation is registered for this issue type. General checklist:",
  "- Treat every value that crosses a trust boundary as untrusted and validate it against an " ++
    "allow-list.",
  "- Keep data and code apart: bind parameters, encode output for its context, avoid building " ++
    "commands from strings.",
  "- Remove secrets from source and load them from the environment or a secrets manager.",
  "- Prefer vetted library functions over hand-written parsing, escaping or cryptography.",
  "- Add a regression test that reproduces the issue before changing the code."]

/-- A heading and an indented text under it. -/
def fixSection (heading text : WideText) : WideText :=
  heading ++ "\n" ++ Text.indent text

/-- The text of a template, with the flagged code in it if there is any. -/
def FixTemplate.render (template : FixTemplate) (matchedCode : String) : WideText :=
  let flagged := Text.trim matchedCode
  let sections : List WideText :=
    (if flagged.isEmpty then [] else [fixSection "Flagged code:" flagged]) ++
      (if template.before.isEmpty then [] else [fixSection "Before:" template.before]) ++
      (if template.after.isEmpty then [] else [fixSection "After:" template.after])
  .intercalate "\n\n" (template.rationale :: sections)

namespace Catalog

/-- The template for a finding. The rule's own counts only if the finding is of its type. -/
def templateFor? (catalog : Catalog) (finding : Finding) : Option FixTemplate :=
  let own := if finding.rule.isEmpty then none else catalog.get? finding.rule
  match own with
  | some rule => if rule.type = finding.type then some rule.fix else catalog.fixFor? finding.type
  | none => catalog.fixFor? finding.type

/-- What to do about a finding. -/
def fixText (catalog : Catalog) (finding : Finding) : WideText :=
  match catalog.templateFor? finding with
  | some template => template.render finding.matchedCode
  | none => genericFix

/-- The finding with what to do about it. -/
def attachFix (catalog : Catalog) (finding : Finding) : Finding :=
  { finding with suggestedFix := some (catalog.fixText finding) }

/-- The findings with what to do about each of them. -/
def attachFixes (catalog : Catalog) (findings : List Finding) : List Finding :=
  findings.map catalog.attachFix

end Catalog

end SourceAudit
