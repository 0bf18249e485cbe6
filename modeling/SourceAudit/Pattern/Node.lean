-- Search patterns as trees that are ready to be run. Every flag has been applied: a node says
-- itself whether case counts, which line breaks it knows and which letters are word characters.

import SourceAudit.Pattern.Term

namespace SourceAudit.Pattern

/-- A condition on the place between two characters. -/
inductive Anchor where
  /-- Nothing stands before. -/
  | textStart
  /-- Nothing stands before, or a line feed. -/
  | lineStart
  /-- Nothing follows. -/
  | textEnd
  /-- Nothing follows but at most one line feed. -/
  | lastLineEnd
  /-- Nothing follows, or a line feed does. -/
  | lineEnd
  /-- A word begins or ends here. -/
  | wordEdge (asciiOnly : Bool)
  /-- No word begins or ends here, in a text that is not empty. -/
  | noWordEdge (asciiOnly : Bool)
  deriving DecidableEq, Repr

/-- A pattern. -/
inductive Node where
  | empty
  | char (test : CharTest)
  | anchor (a : Anchor)
  | seq (first second : Node)
  /-- Matches nothing at all: the end of a choice. -/
  | never
  /-- One of two patterns. The first is not tried where the character does not pass the test. -/
  | either (opening : Option CharTest) (first second : Node)
  /-- At least `least` characters that pass a test, and at most `more` beyond them if that is
  given. With `next`, that point has to stand behind them. -/
  | stretch (greed : Greed) (least : Nat) (more : Option Nat) (test : CharTest) (next : Option Nat)
  /-- At least `least` rounds of the body, and at most `more` beyond them if that is given. -/
  | repeated (greed : Greed) (least : Nat) (more : Option Nat) (body : Node)
  /-- Remembers what the body matched, under a number. -/
  | group (index : Nat) (body : Node)
  /-- The text that a group has matched. -/
  | sameAs (index : Nat) (rule : CaseRule)
  /-- Looks at the text from a number of characters before, and moves nowhere. -/
  | look (back : Nat) (negated : Bool) (body : Node)
  /-- The first way in which the body matches, and no other. -/
  | atomic (body : Node)
  /-- One of two patterns, by whether a group has matched. -/
  | ifGroup (index : Nat) (yes no : Node)
  deriving Repr

/-- How far a pattern looks back at most. -/
def Node.reach : Node → Nat
  | seq a b | either _ a b | ifGroup _ a b => max a.reach b.reach
  | repeated _ _ _ body | group _ body | atomic body => body.reach
  | look back _ body => max back body.reach
  | _ => 0

end SourceAudit.Pattern
