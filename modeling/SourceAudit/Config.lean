-- The configuration of a run: which rules apply, what makes a run fail, and which files are
-- looked at. It is read from a document with known keys only.

import SourceAudit.Catalog.FromFile
import SourceAudit.Catalog.Packaged
import SourceAudit.Severity

namespace SourceAudit

open SourceAudit.Document
open SourceAudit.Files (Path Workspace)

/-- What a run is configured to do. Without a path to rules the packaged ones apply, and without
suffixes all files in a known language are looked at. -/
structure Config where
  rulesPath : Option WideText := none
  disabledRules : List WideText := []
  threshold : Severity := .medium
  maxFileSize : Nat := 500000
  extensions : Option (List WideText) := none
  deriving DecidableEq, Repr

/-- Why there is no configuration, or why it is given up. -/
inductive ConfigFault where
  | broken (cause : Breakdown)
  | malformed (path : Path) (fault : Yaml.Fault)
  | nothing (path : Path)
  | notMapping
  | unknownKeys (keys : List WideText)
  | unknownSeverity (value : Value)
  | unwrittenSeverity (cause : Breakdown)
  | badSize
  | notList (key : String)

/-- What is said where there is no configuration. -/
def ConfigFault.message : ConfigFault → WideText
  | broken cause => cause.message
  | malformed path fault =>
    "Config file " ++ path.toString ++ " is not valid YAML: " ++ fault.message
  | nothing path => "Config file not found: " ++ path.toString
  | notMapping => "Config must be a mapping"
  | unknownKeys keys => "Unknown config keys: " ++ .intercalate ", " keys
  | unknownSeverity value => "'fail_on': " ++ Severity.unknownMessage value
  | unwrittenSeverity cause => "'fail_on': " ++ cause.message
  | badSize => "'max_file_size_bytes' must be a positive integer"
  | notList key => "'" ++ key ++ "' must be a list of strings"

namespace Config

/-! ## Reading a document -/

/-- The keys that a configuration may have. -/
def knownKeys : List WideText :=
  ["rules_path", "disabled_rules", "fail_on", "max_file_size_bytes", "extensions"]

/-- The text that a key is. -/
def nameOf (key : Value) : Except ConfigFault WideText :=
  match key.text? with
  | some name => .ok name
  | none => .error (.broken .keyNotText)

/-- All keys are texts, and known. Unknown ones are named in the order of code points. -/
def checkKeys (keys : List Value) : Except ConfigFault Unit := do
  let names ← keys.mapM nameOf
  match names.filter fun name => !knownKeys.contains name with
  | [] => return
  | unknown => throw (.unknownKeys (WideText.sorted unknown))

/-- A text, trimmed. Null and an empty text are none. -/
def optionalText : Value → Except ConfigFault (Option WideText)
  | .null => .ok none
  | value => do
    let text := (← value.words.mapError .broken).trim
    return if text.isEmpty then none else some text

/-- The items of a list, trimmed, without the empty ones. Null stands for no items. -/
def texts (key : String) : Value → Except ConfigFault (List WideText)
  | .null => .ok []
  | value =>
    match value.items? with
    | some items => do
      let words ← (items.mapM Value.words).mapError .broken
      return (words.map WideText.trim).filter fun text => !text.isEmpty
    | none => .error (.notList key)

/-- A suffix in lower case, with a point in front. -/
def suffix (text : WideText) : WideText :=
  let lower := text.lowercase
  if lower.startsWith "." then lower else "." ++ lower

/-- The greatest size of a file. -/
def readSize (entries : List (Value × Value)) : Except ConfigFault Nat :=
  match Value.field? entries "max_file_size_bytes" with
  | none => .ok ({} : Config).maxFileSize
  | some (.int n) => if 0 < n then .ok n.toNat else .error .badSize
  | some _ => .error .badSize

/-- The lowest severity that makes a run fail. A number that is too long is a fault of its own; what
lies too deep gives up the work. -/
def readThreshold (entries : List (Value × Value)) : Except ConfigFault Severity :=
  match Value.field? entries "fail_on" with
  | none => .ok ({} : Config).threshold
  | some value =>
    match value.words with
    | .error .nestedTooDeep => .error (.broken .nestedTooDeep)
    | .error cause => .error (.unwrittenSeverity cause)
    | .ok _ =>
      match Severity.ofValue? value with
      | some severity => .ok severity
      | none => .error (.unknownSeverity value)

/-- The suffixes of files that are looked at. -/
def readExtensions (entries : List (Value × Value)) :
    Except ConfigFault (Option (List WideText)) :=
  match Value.field entries "extensions" with
  | .null => .ok none
  | value => (texts "extensions" value).map fun items => some (items.map suffix)

/-- Reads a configuration. The first fault counts. -/
def ofDocument (value : Value) : Except ConfigFault Config :=
  match value.entries? with
  | some entries => do
    checkKeys (entries.map Prod.fst)
    let threshold ← readThreshold entries
    let maxFileSize ← readSize entries
    let rulesPath ← optionalText (Value.field entries "rules_path")
    let disabledRules ← texts "disabled_rules" (Value.field entries "disabled_rules")
    let extensions ← readExtensions entries
    return {
      rulesPath := rulesPath
      disabledRules := disabledRules
      threshold := threshold
      maxFileSize := maxFileSize
      extensions := extensions }
  | none => .error .notMapping

/-! ## Reading a file -/

/-- Where a configuration is looked for unless a path is given. -/
def defaultPath : Path := Path.ofString ".vulnscan.yaml"

/-- Reads the configuration in a file, or at the default place. A file that is asked for has to
hold something; the default one need not be there. -/
def ofFile (workspace : Workspace) (path : Option Path) : Except ConfigFault Config :=
  let place := path.getD defaultPath
  match Document.ofFile workspace place with
  | .error (.broken cause) => .error (.broken cause)
  | .error (.malformed fault) => .error (.malformed place fault)
  | .ok .null => if path.isSome then .error (.nothing place) else .ok {}
  | .ok value => ofDocument value

/-! ## The rules of a run -/

/-- Why a configuration selects no catalog. -/
inductive SelectionFault where
  | file (fault : CatalogFileFault)
  | unknownIds (ids : List WideText)

/-- What is said of a configuration that selects no catalog. -/
def SelectionFault.message : SelectionFault → WideText
  | file fault => fault.message
  | unknownIds ids => Catalog.unknownIdsMessage ids

/-- The catalog before rules are left out. -/
def fullCatalog (config : Config) (workspace : Workspace) : Except SelectionFault Catalog :=
  match config.rulesPath with
  | none => .ok Catalog.packaged
  | some path => (Catalog.ofNamedFile workspace path).mapError .file

/-- A catalog without the rules that are left out. -/
def select (config : Config) (catalog : Catalog) : Except SelectionFault Catalog :=
  (catalog.without config.disabledRules).mapError .unknownIds

/-- The catalog that a configuration selects. -/
def catalog (config : Config) (workspace : Workspace) : Except SelectionFault Catalog :=
  match config.fullCatalog workspace with
  | .error fault => .error fault
  | .ok catalog => config.select catalog

end Config

end SourceAudit
