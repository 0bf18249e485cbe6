-- The scan of many files. Files are scanned one at a time and their findings put into one report.
-- A file that cannot be scanned is skipped with a notice, so that it does not hide the others.

import SourceAudit.FileScan
import SourceAudit.Files.Walk

namespace SourceAudit

open SourceAudit.Files (Harvest Path Workspace)

/-! ## Notices -/

/-- What is worth telling about a run besides its report. -/
inductive Notice where
  | loaded (ruleCount fixCount : Nat) (path : Path)
  | loadedPackaged (ruleCount fixCount : Nat)
  | inspected (path : Path) (inspection : Inspection)
  | skipped (path : Path) (reason : String)
  | skippedLarge (path : Path) (size : Nat) (limit : Int)
  | surveyed (fileCount : Nat)
  deriving DecidableEq, Repr

namespace Notice

/-- The notice is told even to those who do not want details. -/
def isWarning : Notice → Bool
  | skipped _ _ | skippedLarge _ _ _ => true
  | _ => false

/-- The part of the program that a notice comes from. -/
def origin : Notice → String
  | loaded _ _ _ | loadedPackaged _ _ => "vulnscan.rules"
  | inspected _ _ => "vulnscan.engine"
  | skipped _ _ | skippedLarge _ _ _ | surveyed _ => "vulnscan.cli"

/-- The words that tell of a catalog from somewhere. -/
def loadedText (ruleCount fixCount : Nat) (source : String) : String :=
  "Loaded " ++ toString ruleCount ++ " rules (" ++ toString fixCount ++ " fix templates) from " ++
    source

/-- The words of a notice. -/
def text : Notice → String
  | loaded ruleCount fixCount path => loadedText ruleCount fixCount path.toString
  | loadedPackaged ruleCount fixCount => loadedText ruleCount fixCount "catalog.yaml"
  | inspected path inspection =>
    "Scanned " ++ path.toString ++ " as " ++ inspection.language.name ++ ": " ++
      toString inspection.lineCount ++ " lines, " ++ toString inspection.ruleCount ++
      " rules, " ++ toString inspection.findings.length ++ " findings"
  | skipped path reason => "Skipping " ++ path.toString ++ ": " ++ reason
  | skippedLarge path size limit => "Skipping " ++ tooLargeMessage path size limit
  | surveyed fileCount => "Scanned " ++ toString fileCount ++ " files"

/-- The line that tells a notice. Details are told on demand only, and then every notice says
where it comes from. -/
def line? (verbose : Bool) (notice : Notice) : Option String :=
  if verbose then
    some ((if notice.isWarning then "WARNING " else "DEBUG ") ++ notice.origin ++ ": " ++
      notice.text)
  else if notice.isWarning then some notice.text
  else none

end Notice

/-! ## Surveys -/

/-- What a run is told besides the files and the rules. A strict one does not skip a file that is
not valid text. -/
structure SurveyOptions where
  scan : FileScanOptions := {}
  strict : Bool := false
  deriving DecidableEq, Repr

/-- Why a run gives no report: a file that must not be skipped, or a search for files that stops
before its end. -/
inductive SurveyFault where
  | scan (fault : ScanFault)
  | search (cause : Breakdown)
  deriving DecidableEq, Repr

/-- The notices of a run, and what has become of it. -/
structure Outcome (ε α : Type) where
  notices : List Notice
  result : Except ε α

/-- What one file adds to a run. -/
inductive FileOutcome where
  | report (report : Report) (notice : Notice)
  | skip (notice : Notice)
  | abort (fault : ScanFault)

namespace Catalog

/-- Scans one file of a run, or decides why it is skipped. -/
def surveyFile (catalog : Catalog) (workspace : Workspace) (options : SurveyOptions)
    (path : Path) : FileOutcome :=
  match catalog.inspectFile workspace path options.scan with
  | .ok inspection => .report inspection.report (.inspected path inspection)
  | .error (.tooLarge path size limit) => .skip (.skippedLarge path size limit)
  | .error (.unreadable fault) => .skip (.skipped path (fault.message path))
  | .error (.scan (.source fault)) =>
    if options.strict then .abort (.source fault) else .skip (.skipped path fault.message)
  | .error (.scan (.aggregate fault)) => .abort (.aggregate fault)

/-- The reports on some files, one after another. -/
def surveyFiles (catalog : Catalog) (workspace : Workspace) (options : SurveyOptions) :
    List Path → Outcome ScanFault (List Report)
  | [] => ⟨[], .ok []⟩
  | path :: rest =>
    match catalog.surveyFile workspace options path with
    | .abort fault => ⟨[], .error fault⟩
    | .skip notice =>
      let others := catalog.surveyFiles workspace options rest
      ⟨notice :: others.notices, others.result⟩
    | .report report notice =>
      let others := catalog.surveyFiles workspace options rest
      ⟨notice :: others.notices, others.result.map (report :: ·)⟩

/-- One report on the files of a search. Where the search stops, the files up to there are scanned,
but there is no report. -/
def survey (catalog : Catalog) (workspace : Workspace) (options : SurveyOptions)
    (harvest : Harvest) : Outcome SurveyFault Report :=
  let reports := catalog.surveyFiles workspace options harvest.paths
  match reports.result, harvest.stop with
  | .error fault, _ => ⟨reports.notices, .error (.scan fault)⟩
  | .ok _, some cause => ⟨reports.notices, .error (.search cause)⟩
  | .ok all, none => ⟨reports.notices ++ [.surveyed all.length], .ok (Report.merge all)⟩

end Catalog

end SourceAudit
