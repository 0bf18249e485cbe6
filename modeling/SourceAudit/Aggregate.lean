-- From matches to findings. Of all matches of a rule on a line one is kept, the leftmost; the
-- findings are ordered by line, and on a line by the order of the rules.

import SourceAudit.Match
import SourceAudit.Finding
import SourceAudit.Identity

namespace SourceAudit

/-- Why matches cannot be made into findings. -/
inductive AggregateFault where
  | unknownRule (id : WideText)
  | unencodable (id : WideText)
  | noSuchLine (line : Int)
  deriving DecidableEq, Repr

namespace Aggregate

/-! ## Order -/

/-- A match with its rule and the place of the rule in the catalog. -/
structure Placed where
  raw : RawMatch
  rule : Rule
  position : Nat

/-- Finds the rule of a match. -/
def place (catalog : Catalog) (raw : RawMatch) : Except AggregateFault Placed :=
  match catalog.get? raw.rule, catalog.position? raw.rule with
  | some rule, some position => .ok ⟨raw, rule, position⟩
  | _, _ => .error (.unknownRule raw.rule)

/-- By line, and on a line by the order of the rules. -/
def Placed.le (a b : Placed) : Bool :=
  if a.raw.line = b.raw.line then a.position ≤ b.position else a.raw.line ≤ b.raw.line

/-- The two matches belong to one finding. -/
def Placed.sameFinding (a b : Placed) : Bool :=
  a.raw.line == b.raw.line && a.position == b.position

/-! ## One match for each rule and line -/

/-- Of two matches for one finding, the earlier one unless the later one is further left. -/
def Placed.leftmost (earlier later : Placed) : Placed :=
  if later.raw.place < earlier.raw.place then later else earlier

/-- One match for each finding, from matches in order, where `kept` is the choice so far for the
finding at hand. -/
def collapseFrom (kept : Placed) : List Placed → List Placed
  | [] => [kept]
  | next :: rest =>
    if kept.sameFinding next then collapseFrom (kept.leftmost next) rest
    else kept :: collapseFrom next rest

/-- One match for each finding, from matches in order. -/
def collapse : List Placed → List Placed
  | [] => []
  | first :: rest => collapseFrom first rest

/-! ## Ordinals -/

/-- How many findings each rule has so far. -/
abbrev Tally := List (WideText × Nat)

/-- How many findings a rule has so far. -/
def Tally.count (tally : Tally) (rule : WideText) : Nat :=
  (tally.lookup rule).getD 0

/-- One finding more for a rule. -/
def Tally.add (rule : WideText) : Tally → Tally
  | [] => [(rule, 1)]
  | (id, n) :: rest => if id = rule then (id, n + 1) :: rest else (id, n) :: Tally.add rule rest

/-! ## Findings -/

/-- The line with a number. Zero is the last line, and lower numbers count back from there. -/
def lineAt? (lines : Array String) (number : Int) : Option String :=
  let index := number - 1
  if 0 ≤ index then lines[index.toNat]?
  else if 0 ≤ index + lines.size then lines[(index + lines.size).toNat]?
  else none

/-- The finding for a match on a line, by its identifier. -/
def Placed.finding (p : Placed) (id line : String) : Finding where
  id := id
  rule := p.rule.id
  type := p.rule.type
  severity := p.rule.severity
  location := { line := p.raw.line, column := p.raw.column }
  description := p.rule.description
  matchedCode := Text.trimEnd line
  cwe := p.rule.cwe
  references := p.rule.references

/-- The finding for a match, where the rule has `occurrence` findings before. Its identifier comes
before its line: the one of a rule with surrogates has no bytes to digest. -/
def Placed.findingIn (p : Placed) (lines : Array String) (seed : String) (occurrence : Nat) :
    Except AggregateFault Finding :=
  match p.rule.id.text? with
  | none => .error (.unencodable p.rule.id)
  | some rule =>
    match lineAt? lines p.raw.line with
    | none => .error (.noSuchLine p.raw.line)
    | some line => .ok (p.finding (Identity.findingId seed rule p.raw.line occurrence) line)

/-- The findings for matches in order. -/
def findingsFrom (lines : Array String) (seed : String) (tally : Tally) :
    List Placed → Except AggregateFault (List Finding)
  | [] => .ok []
  | p :: rest => do
    let finding ← p.findingIn lines seed (tally.count p.rule.id)
    let others ← findingsFrom lines seed (tally.add p.rule.id) rest
    return finding :: others

end Aggregate

/-- The findings for some matches in some lines: one for each rule and line. -/
def aggregate (catalog : Catalog) (lines : List String) (seed : String) (raws : List RawMatch) :
    Except AggregateFault (List Finding) := do
  let placed ← raws.mapM (Aggregate.place catalog)
  let collapsed := Aggregate.collapse (placed.mergeSort Aggregate.Placed.le)
  Aggregate.findingsFrom lines.toArray seed [] collapsed

end SourceAudit
