-- Matches of the rules of a catalog in lines of source code. Each line is searched on its own.

import SourceAudit.Catalog.Basic
import SourceAudit.Text.Lines

namespace SourceAudit

/-- A place where a rule hits. Lines are counted from one and columns from zero. Matches from
elsewhere may lack a column, and their numbers need not make sense. -/
structure RawMatch where
  rule : WideText
  line : Int
  column : Option Int
  text : String
  deriving DecidableEq, Repr

namespace RawMatch

/-- The column, where a missing one counts as the first. -/
def place (m : RawMatch) : Int :=
  m.column.getD 0

end RawMatch

/-- The hits of a rule in one line, except the empty ones. -/
def Rule.matchesIn (rule : Rule) (number : Nat) (line : String) : List RawMatch :=
  let text := line.toList.toArray
  ((rule.pattern.hits text).filter fun hit => hit.start < hit.stop).map fun hit =>
    { rule := rule.id
      line := number
      column := some hit.start
      text := String.ofList (hit.text text) }

/-- The hits of a rule in lines that are numbered from `number` on. -/
def Rule.matchesFrom (rule : Rule) (number : Nat) : List String → List RawMatch
  | [] => []
  | line :: rest => rule.matchesIn number line ++ rule.matchesFrom (number + 1) rest

/-- All hits of the rules for a language, rule by rule. -/
def Catalog.matchesInLines (catalog : Catalog) (language : Language) (lines : List String) :
    List RawMatch :=
  (catalog.rulesFor language).flatMap fun rule => rule.matchesFrom 1 lines

/-- All hits of the rules for a language in a text. -/
def Catalog.matches (catalog : Catalog) (language : Language) (text : String) : List RawMatch :=
  catalog.matchesInLines language (Text.lines text)

end SourceAudit
