-- A run of the command: from arguments and files to what is printed, what is written, and the
-- number that the command ends with.

import SourceAudit.Command.Arguments
import SourceAudit.Config
import SourceAudit.Report.Json
import SourceAudit.Report.Table
import SourceAudit.Survey

namespace SourceAudit.Command

open SourceAudit.Files (Harvest Path Workspace WriteFault)

/-! ## How a run ends -/

/-- What stops a run in a way that the command does not explain. -/
inductive Stop where
  | breakdown (cause : Breakdown)
  | aggregate (fault : AggregateFault)
  | unwritable (fault : WriteFault)
  deriving DecidableEq, Repr

/-- What is said of a run that stops. -/
def Stop.message : Stop → String
  | breakdown cause => cause.message
  | aggregate (.unencodable _) => "an identifier has surrogates"
  | aggregate _ => "a match names no rule or no line"
  | unwritable fault => fault.message

/-- Where the report of a run goes, besides the table that is always printed. -/
inductive Delivery where
  | printed
  | written (destination : String)
  | dropped
  deriving DecidableEq, Repr

/-- A run with a verdict. -/
structure Completion where
  report : Report
  threshold : Severity
  delivery : Delivery
  workspace : Workspace

/-- How a run ends. -/
inductive Ending where
  | help
  | refused (message : WideText)
  | stopped (cause : Stop)
  | completed (completion : Completion)

/-- A run: what it has to tell on the way, with or without details, and its end. -/
structure Run where
  notices : List Notice
  verbose : Bool
  ending : Ending

namespace Completion

/-- The report as it is handed on to other programs. -/
def payload (report : Report) (threshold : Severity) : String :=
  (report.verdictJson threshold).write

/-- What is printed. -/
def output (completion : Completion) : WideText :=
  let table := completion.report.table Report.defaultLimit completion.threshold
  let ending : String := match completion.delivery with
    | .written destination => "\nReport written to " ++ destination ++ "\n"
    | .printed => "\nJSON Report\n" ++ payload completion.report completion.threshold ++ "\n"
    | .dropped => ""
  table ++ "\n" ++ ending

end Completion

/-- What is printed at the end of a run. -/
def Ending.output : Ending → WideText
  | completed completion => completion.output
  | _ => ""

/-- What is said at the end of a run that is refused. -/
def Ending.complaint : Ending → WideText
  | refused message => "vulnscan: error: " ++ message ++ "\n"
  | _ => ""

/-- The lines that a run tells on the way. -/
def Run.lines (run : Run) : List String :=
  run.notices.filterMap (Notice.line? run.verbose)

/-- What a run says besides what it prints. -/
def Run.messages (run : Run) : WideText :=
  String.join (run.lines.map (· ++ "\n")) ++ run.ending.complaint

/-- The number that the command ends with. -/
def Ending.exitCode : Ending → Nat
  | help => 0
  | refused _ => 2
  | stopped _ => 1
  | completed completion => completion.report.exitCode completion.threshold

/-! ## The steps of a run -/

/-- A text that says something; an empty one counts as none. -/
def given (text : Option String) : Option String :=
  text.filter fun text => !text.isEmpty

/-- The end of a run whose configuration cannot be read. -/
def Ending.ofConfigFault : ConfigFault → Ending
  | .broken cause => .stopped (.breakdown cause)
  | fault => .refused fault.message

/-- The end of a run without a catalog. -/
def Ending.ofSelectionFault : Config.SelectionFault → Ending
  | .file (.broken cause) => .stopped (.breakdown cause)
  | fault => .refused fault.message

/-- The end of a run without a report. -/
def Ending.ofSurveyFault : SurveyFault → Ending
  | .scan (.source fault) => .refused fault.message
  | .scan (.aggregate fault) => .stopped (.aggregate fault)
  | .search cause => .stopped (.breakdown cause)

/-- The path that an operand stands for. -/
def pathOf : Operand → Except Breakdown Path
  | .text text => .ok (.ofString text)
  | .dashes => .error .noPath

/-- The configuration of a run; rules that are asked for replace those of the file. -/
def configOf (workspace : Workspace) (settings : Settings) : Except ConfigFault Config := do
  let path ← (settings.config.mapM pathOf).mapError .broken
  let config ← Config.ofFile workspace path
  match given settings.rules with
  | some rules => return { config with rulesPath := some ↑rules }
  | none => return config

/-- What is told when a catalog has been read. -/
def catalogNotices (config : Config) (catalog : Catalog) : List Notice :=
  match config.rulesPath with
  | some path => path.text?.toList.map fun name =>
      .loaded catalog.rules.length catalog.fixes.length (Path.ofString name)
  | none => [.loadedPackaged catalog.rules.length catalog.fixes.length]

/-- Where files are looked for: where one stands, unless sources are given. A source that names
nothing ends the search. -/
def rootsOf (settings : Settings) : List Path × Option Breakdown :=
  if settings.sources.isEmpty then ([.ofString "."], none)
  else
    let named := settings.sources.takeWhile fun source => source.text?.isSome
    (named.filterMap fun source => source.text?.map Path.ofString,
      if named.length < settings.sources.length then some .noPath else none)

/-- The suffixes of the files of a run. No file has one with surrogates. -/
def wantedSuffixes (config : Config) : List String :=
  match config.extensions with
  | some extensions => extensions.filterMap WideText.text?
  | none => Language.suffixes.map Prod.fst

/-- The files of a run. -/
def filesOf (workspace : Workspace) (settings : Settings) (config : Config) : Harvest :=
  let (roots, stop) := rootsOf settings
  let harvest := workspace.filesAtRoots (wantedSuffixes config) roots
  { harvest with stop := harvest.stop.or stop }

/-- How the files of a run are scanned. -/
def surveyOptions (settings : Settings) (config : Config) : SurveyOptions where
  scan := {
    language := (given settings.language).map fun tag => Language.ofText tag
    maxSize := some config.maxFileSize
    resolveFixes := !settings.noFixes }
  strict := settings.strict

/-- Puts a report where it is wanted. -/
def finish (workspace : Workspace) (settings : Settings) (threshold : Severity)
    (report : Report) : Ending :=
  if !settings.isJson then .completed ⟨report, threshold, .dropped, workspace⟩
  else
    match given settings.output with
    | none => .completed ⟨report, threshold, .printed, workspace⟩
    | some destination =>
      let bytes := Text.utf8 (Completion.payload report threshold).toList
      match workspace.writeFile (Path.ofString destination) bytes with
      | .ok workspace => .completed ⟨report, threshold, .written destination, workspace⟩
      | .error fault => .stopped (.unwritable fault)

/-- Scans the files that settings and configuration choose. -/
def runSurvey (workspace : Workspace) (settings : Settings) (config : Config)
    (catalog : Catalog) : List Notice × Ending :=
  let outcome := catalog.survey workspace (surveyOptions settings config)
    (filesOf workspace settings config)
  match outcome.result with
  | .error fault => (outcome.notices, .ofSurveyFault fault)
  | .ok report =>
    let threshold := settings.threshold.getD config.threshold
    (outcome.notices, finish workspace settings threshold report)

/-- Runs the command with settings. -/
def runSettings (workspace : Workspace) (settings : Settings) : List Notice × Ending :=
  match configOf workspace settings with
  | .error fault => ([], .ofConfigFault fault)
  | .ok config =>
    match config.fullCatalog workspace with
    | .error fault => ([], .ofSelectionFault fault)
    | .ok full =>
      let loaded := catalogNotices config full
      match config.select full with
      | .error fault => (loaded, .ofSelectionFault fault)
      | .ok catalog =>
        let (notices, ending) := runSurvey workspace settings config catalog
        (loaded ++ notices, ending)

/-- Runs the command. -/
def run (workspace : Workspace) (arguments : List String) : Run :=
  match Wish.ofArguments arguments with
  | .error fault => ⟨[], false, .refused fault.message⟩
  | .ok .help => ⟨[], false, .help⟩
  | .ok (.run settings) =>
    let (notices, ending) := runSettings workspace settings
    ⟨notices, settings.verbose, ending⟩

end SourceAudit.Command
