-- A scan: source code in, report out. A scan keeps nothing between calls.

import SourceAudit.Source
import SourceAudit.Aggregate
import SourceAudit.Remedy
import SourceAudit.Report.Basic

namespace SourceAudit

/-- Why a scan gives no report. -/
inductive ScanFault where
  | source (fault : SourceFault)
  | aggregate (fault : AggregateFault)
  deriving DecidableEq, Repr

/-- What a scan is told besides the code. Without a seed, identifiers are derived from the code;
a file is copied into every finding. -/
structure ScanOptions where
  seed : Option String := none
  file : Option String := none
  resolveFixes : Bool := true
  deriving DecidableEq, Repr

namespace ScanOptions

/-- The seed of the identifiers. An empty one counts as none. -/
def seedFor (options : ScanOptions) (language : Language) (text : String) : String :=
  match options.seed with
  | some seed =>
    if seed.isEmpty then Identity.fingerprint language options.file text else seed
  | none => Identity.fingerprint language options.file text

/-- The findings with their file and with what to do about them, as far as that is wanted. -/
def complete (options : ScanOptions) (catalog : Catalog) (findings : List Finding) :
    List Finding :=
  let located := match options.file with
    | some file => findings.map (·.inFile file)
    | none => findings
  if options.resolveFixes then catalog.attachFixes located else located

end ScanOptions

/-- What a scan finds in a text, before it is put into a report. -/
structure Inspection where
  language : Language
  lineCount : Nat
  ruleCount : Nat
  findings : List Finding
  deriving DecidableEq, Repr

/-- The report on what has been found. -/
def Inspection.report (inspection : Inspection) : Report :=
  Report.assemble inspection.findings

namespace Catalog

/-- The findings in a text. -/
def findingsIn (catalog : Catalog) (text : String) (language : Language) (options : ScanOptions) :
    Except AggregateFault (List Finding) := do
  let lines := Text.lines text
  let seed := options.seedFor language text
  let findings ← aggregate catalog lines seed (catalog.matchesInLines language lines)
  return options.complete catalog findings

/-- Looks for findings in source code. -/
def inspect (catalog : Catalog) (source : Source) (language : Language) (options : ScanOptions) :
    Except ScanFault Inspection :=
  match source.decode with
  | .error fault => .error (.source fault)
  | .ok text =>
    match catalog.findingsIn text language options with
    | .error fault => .error (.aggregate fault)
    | .ok findings =>
      .ok {
        language := language
        lineCount := (Text.lines text).length
        ruleCount := (catalog.rulesFor language).length
        findings := findings }

/-- Scans source code. -/
def scan (catalog : Catalog) (source : Source) (language : Language) (options : ScanOptions) :
    Except ScanFault Report :=
  (catalog.inspect source language options).map Inspection.report

end Catalog

end SourceAudit
