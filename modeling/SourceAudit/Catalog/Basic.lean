-- Catalogs: rules in order, and remediation by type of issue.

import SourceAudit.Rule

namespace SourceAudit

/-- An ordered collection of rules, with remediation for types of issues. -/
structure Catalog where
  rules : List Rule
  fixes : List (WideText × FixTemplate)
  deriving Repr

namespace Catalog

/-! ## Tables -/

/-- Puts a value under a name. A name that is there keeps its place. -/
def put {α : Type} (name : WideText) (value : α) : List (WideText × α) → List (WideText × α)
  | [] => [(name, value)]
  | (n, v) :: rest => if n = name then (n, value) :: rest else (n, v) :: put name value rest

/-- The table of some entries, put into it one after the other. -/
def tableOf {α : Type} (entries : List (WideText × α)) : List (WideText × α) :=
  entries.foldl (fun table entry => put entry.1 entry.2 table) []

/-- The rules by their identifiers. -/
def ruleTable (catalog : Catalog) : List (WideText × Rule) :=
  tableOf (catalog.rules.map fun rule => (rule.id, rule))

/-- The places of the rules by their identifiers. -/
def placeTable (catalog : Catalog) : List (WideText × Nat) :=
  tableOf (catalog.rules.zipIdx.map fun entry => (entry.1.id, entry.2))

/-- The rules for each of the languages, in order. -/
def languageTable (catalog : Catalog) : List (Language × List Rule) :=
  Language.all.map fun language => (language, catalog.rules.filter (·.appliesTo language))

/-! ## Looking up -/

/-- The identifiers of the rules, in order. -/
def ids (catalog : Catalog) : List WideText :=
  catalog.rules.map (·.id)

/-- The rule with an identifier. -/
def get? (catalog : Catalog) (id : WideText) : Option Rule :=
  catalog.rules.find? (·.id == id)

/-- Some rule has the identifier. -/
def contains (catalog : Catalog) (id : WideText) : Bool :=
  catalog.rules.any (·.id == id)

/-- The place of the rule with an identifier, counted from zero. -/
def position? (catalog : Catalog) (id : WideText) : Option Nat :=
  catalog.rules.findIdx? (·.id == id)

/-- The rules for a language, in order. -/
def rulesFor (catalog : Catalog) (language : Language) : List Rule :=
  catalog.rules.filter (·.appliesTo language)

/-- The remediation for a type of issue. -/
def fixFor? (catalog : Catalog) (type : WideText) : Option FixTemplate :=
  catalog.fixes.lookup type

/-- The types of issues that rules look for, in the order in which they first appear. -/
def types (catalog : Catalog) : List WideText :=
  (catalog.rules.map (·.type)).eraseDups

/-! ## Leaving rules out -/

/-- Identifiers in a list that no rule of the catalog has, each once, in the order of code
points. -/
def unknownIds (catalog : Catalog) (ids : List WideText) : List WideText :=
  WideText.sorted (ids.filter fun id => !catalog.contains id).eraseDups

/-- The catalog without the rules that have one of the identifiers. Identifiers that no rule has
are the error. -/
def without (catalog : Catalog) (ids : List WideText) : Except (List WideText) Catalog :=
  match catalog.unknownIds ids with
  | [] => .ok { catalog with rules := catalog.rules.filter fun rule => !ids.contains rule.id }
  | unknown => .error unknown

/-- What is said of identifiers that cannot be left out. -/
def unknownIdsMessage (ids : List WideText) : WideText :=
  "Cannot disable unknown rule ids: " ++ .intercalate ", " ids

end Catalog

end SourceAudit
