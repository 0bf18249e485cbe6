-- Catalogs read from documents. Every definition is checked before any rule is used, and the
-- first fault is reported: fixes come before rules, and rules in their order.

import SourceAudit.Catalog.Basic

namespace SourceAudit

open SourceAudit.Document

/-! ## Faults -/

/-- What is wrong with the definition of a rule whose identifier is known. -/
inductive RuleFault where
  | unknownSeverity (value : Value)
  | languagesNotList
  | unknownLanguage (tag : Value)
  | badPattern (reason : Pattern.Malformed)
  | matchesEmpty
  | fixLacksRationale
  | noFix (type : WideText)
  | referencesNotList
  | broken (cause : Breakdown)

/-- What is wrong with a catalog document, or why it is given up. -/
inductive CatalogFault where
  | notMapping
  | fixesNotMapping
  | fixLacksRationale (name : Value)
  | noRules
  | ruleNotMapping (index : Nat)
  | missingKeys (index : Nat) (keys : List String)
  | rule (id : WideText) (fault : RuleFault)
  | duplicateId (id : WideText)
  | broken (cause : Breakdown)

/-- What is said of a faulty rule. -/
def RuleFault.message : RuleFault → String
  | unknownSeverity value => ": " ++ Severity.unknownMessage value
  | languagesNotList => ": 'languages' must be a list"
  | unknownLanguage tag => ": unknown language " ++ tag.quoted
  | badPattern reason => ": pattern does not compile: " ++ reason.message
  | matchesEmpty => ": pattern matches the empty string"
  | fixLacksRationale => ": fix needs a non-empty 'rationale'"
  | noFix type => ": no fix template for type " ++ Text.quoted type
  | referencesNotList => ": 'references' must be a list"
  | broken cause => ": " ++ cause.message

/-- What is said of a faulty document, behind the name of the document and a colon. -/
def CatalogFault.detail : CatalogFault → String
  | notMapping => "catalog must be a mapping with 'rules' and 'fixes'"
  | fixesNotMapping => "'fixes' must be a mapping of vulnerability type to template"
  | fixLacksRationale name => "fix for " ++ name.quoted ++ " needs a non-empty 'rationale'"
  | noRules => "catalog must include a non-empty 'rules' list"
  | ruleNotMapping index => "rule #" ++ toString index ++ " must be a mapping"
  | missingKeys index keys =>
    "rule #" ++ toString index ++ " is missing keys: " ++ ", ".intercalate keys
  | rule id fault => "rule " ++ Text.quoted id ++ fault.message
  | duplicateId id => "duplicate rule id " ++ Text.quoted id
  | broken cause => cause.message

/-- The fault of a document with a faulty rule. -/
def CatalogFault.ofRule (id : WideText) : RuleFault → CatalogFault
  | .broken cause => .broken cause
  | fault => .rule id fault

/-- What is said of a faulty document that goes by a name. -/
def CatalogFault.message (source : WideText) : CatalogFault → WideText
  | broken cause => cause.message
  | fault => source ++ ": " ++ fault.detail

namespace Catalog

/-! ## Texts in a document -/

/-- A value as a text. One that counts as nothing is the empty text. -/
def textOf (value : Value) : Except Breakdown WideText :=
  if value.isFalsy then .ok "" else value.words

/-- A value says nothing. -/
def saysNothing (value : Value) : Except Breakdown Bool :=
  (textOf value).map WideText.blank

/-! ## Remediation -/

/-- Reads a template; one without a rationale is none. -/
def readFix? (value : Value) : Except Breakdown (Option FixTemplate) :=
  match value.entries? with
  | some entries => do
    let rationale ← textOf (Value.field entries "rationale")
    if rationale.blank then return none
    else
      let before ← textOf (Value.field entries "before")
      let after ← textOf (Value.field entries "after")
      return some
        { rationale := rationale.trim
          before := before.trimLineFeeds
          after := after.trimLineFeeds }
  | none => .ok none

/-- Reads the templates by their names, behind those that have been read. -/
def readFixesFrom (done : List (WideText × FixTemplate)) :
    List (Value × Value) → Except CatalogFault (List (WideText × FixTemplate))
  | [] => .ok done
  | (name, value) :: rest => do
    let words ← name.words.mapError .broken
    match ← (readFix? value).mapError .broken with
    | none => .error (.fixLacksRationale name)
    | some fix => readFixesFrom (put words fix done) rest

/-- Reads the templates of a catalog. Nothing stands for none. -/
def readFixes (value : Value) : Except CatalogFault (List (WideText × FixTemplate)) :=
  match value.entries? with
  | some entries => readFixesFrom [] entries
  | none => if value.isFalsy then .ok [] else .error .fixesNotMapping

/-! ## Rules -/

/-- The keys that every rule must have. -/
def requiredKeys : List String := ["id", "type", "severity", "pattern", "description"]

/-- Reads one tag of a language. The unknown language has to be named as such. -/
def readLanguage (tag : Value) : Except RuleFault Language := do
  let words ← tag.words.mapError .broken
  match Language.ofValue tag with
  | .unknown =>
    if words.trim.lowercase = Language.unknown.name then .ok .unknown
    else .error (.unknownLanguage tag)
  | language => .ok language

/-- Reads the languages of a rule. Null stands for all of them. -/
def readLanguages : Value → Except RuleFault (List Language)
  | .null => .ok []
  | value =>
    match value.items? with
    | some tags => (tags.mapM readLanguage).map Language.sorted
    | none => .error .languagesNotList

/-- Reads the pattern of a rule. -/
def readRulePattern (source : Value) (ignoreCase : Value) : Except RuleFault Pattern :=
  match Pattern.compile source.shown (!ignoreCase.isFalsy) with
  | .error (.malformed reason) => .error (.badPattern reason)
  | .error (.broken cause) => .error (.broken cause)
  | .ok pattern => if pattern.matchesEmpty then .error .matchesEmpty else .ok pattern

/-- Chooses the template of a rule: its own, or the one for its type. -/
def readRuleFix (fixes : List (WideText × FixTemplate)) (own : Value) (type : WideText) :
    Except RuleFault FixTemplate :=
  match own with
  | .null =>
    match fixes.lookup type with
    | some fix => .ok fix
    | none => .error (.noFix type)
  | own => do
    match ← (readFix? own).mapError .broken with
    | some fix => .ok fix
    | none => .error .fixLacksRationale

/-- The references of a rule. Nothing stands for none. -/
def referencesOf (value : Value) : Except RuleFault (List Value) :=
  match value.items? with
  | some items => .ok items
  | none => if value.isFalsy then .ok [] else .error .referencesNotList

/-- Reads the weakness that a rule is about. Nothing stands for none. -/
def readWeakness (value : Value) : Except Breakdown (Option WideText) :=
  if value.isFalsy then .ok none else value.words.map fun words => some words.trim

/-- Reads a rule that has all keys. -/
def readRule (fixes : List (WideText × FixTemplate)) (entries : List (Value × Value)) :
    Except RuleFault Rule := do
  let get := Value.field entries
  let some severity := Severity.ofValue? (get "severity")
    | .error (.unknownSeverity (get "severity"))
  let languages ← readLanguages (get "languages")
  let pattern ← readRulePattern (get "pattern") (get "ignore_case")
  let type := (get "type").shown.trim
  let fix ← readRuleFix fixes (get "fix") type
  let references ← referencesOf (get "references")
  let cwe ← (readWeakness (get "cwe")).mapError .broken
  let references ← (references.mapM Value.words).mapError .broken
  return {
    id := (get "id").shown.trim
    type := type
    severity := severity
    languages := languages
    pattern := pattern
    description := (get "description").shown.trim
    fix := fix
    cwe := cwe
    references := references }

/-- The keys among some under which nothing is said. -/
def missingKeys (entries : List (Value × Value)) : List String → Except Breakdown (List String)
  | [] => .ok []
  | key :: rest => do
    let isMissing ← saysNothing (Value.field entries key)
    let others ← missingKeys entries rest
    return if isMissing then key :: others else others

/-- Reads the definition at a place of the list of rules. -/
def readDefinition (fixes : List (WideText × FixTemplate)) (index : Nat) (item : Value) :
    Except CatalogFault Rule :=
  match item.entries? with
  | some entries => do
    let missing ← (missingKeys entries requiredKeys).mapError .broken
    if missing.isEmpty then
      (readRule fixes entries).mapError (.ofRule (Value.field entries "id").shown.trim)
    else .error (.missingKeys index missing)
  | none => .error (.ruleNotMapping index)

/-- Reads definitions from a place on, where rules with the identifiers in `seen` come before. -/
def readRulesFrom (fixes : List (WideText × FixTemplate)) (seen : List WideText)
    (index : Nat) : List Value → Except CatalogFault (List Rule)
  | [] => .ok []
  | item :: rest => do
    let rule ← readDefinition fixes index item
    if seen.contains rule.id then .error (.duplicateId rule.id)
    else
      let others ← readRulesFrom fixes (rule.id :: seen) (index + 1) rest
      return rule :: others

/-! ## The whole document -/

/-- Reads a catalog from a document. -/
def ofDocument (value : Value) : Except CatalogFault Catalog :=
  match value.entries? with
  | some entries => do
    let fixes ← readFixes (Value.field entries "fixes")
    match (Value.field entries "rules").items? with
    | some (first :: rest) =>
      let rules ← readRulesFrom fixes [] 0 (first :: rest)
      return ⟨rules, fixes⟩
    | _ => .error .noRules
  | none => .error .notMapping

end Catalog

end SourceAudit
