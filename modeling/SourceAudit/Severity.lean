-- How grave a finding is. Severities are ordered by risk, and not by their names.

import SourceAudit.Document.Value

namespace SourceAudit

open SourceAudit.Document

/-- The four levels of risk. -/
inductive Severity where
  | low
  | medium
  | high
  | critical
  deriving DecidableEq, Repr

namespace Severity

/-- All levels, the least first. -/
def all : List Severity := [low, medium, high, critical]

/-- All levels, the gravest first: the order of reports. -/
def gravestFirst : List Severity := [critical, high, medium, low]

/-- The name that stands for a level in documents and reports. -/
def name : Severity → String
  | low => "low"
  | medium => "medium"
  | high => "high"
  | critical => "critical"

/-- The place of a level in the order of risk. -/
def rank : Severity → Nat
  | low => 0
  | medium => 1
  | high => 2
  | critical => 3

instance : LE Severity where
  le a b := a.rank ≤ b.rank

instance : LT Severity where
  lt a b := a.rank < b.rank

instance (a b : Severity) : Decidable (a ≤ b) :=
  inferInstanceAs (Decidable (a.rank ≤ b.rank))

instance (a b : Severity) : Decidable (a < b) :=
  inferInstanceAs (Decidable (a.rank < b.rank))

/-! ## Reading a level -/

/-- The level that a text names, whatever its case and the white space around it. -/
def ofText? (text : WideText) : Option Severity :=
  let wanted := text.trim.lowercase
  all.find? fun severity => severity.name = wanted

/-- The level that a value of a document names. -/
def ofValue? (value : Value) : Option Severity :=
  ofText? value.shown

/-- What is said of a value that names no level. -/
def unknownMessage (value : Value) : String :=
  "Unknown severity: " ++ value.quoted

/-! ## Comparing -/

/-- How two levels stand to each other. -/
def order (a b : Severity) : Ordering :=
  compare a.rank b.rank

/-- How the name of a level stands to a plain text, by code points. Nothing but a text can be
compared with a level in this way. -/
def orderOfName? (a : Severity) : Value → Option Ordering
  | .text s =>
    let name : WideText := a.name
    some (if name < s then .lt else if name = s then .eq else .gt)
  | _ => none

end Severity

end SourceAudit
