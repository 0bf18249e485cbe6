-- From terms to the tree that is run: flags are applied, look-behinds get their widths, and what
-- stands at the beginning of a sequence is told to what stands before it.

import SourceAudit.Pattern.Fault
import SourceAudit.Pattern.Node

namespace SourceAudit.Pattern

/-- A pattern that stands in front of others: how it is run, and the plain test that the first
character of it and of what follows has to pass, if it begins with one. -/
structure Resolved where
  node : Node
  opening : Option CharTest

namespace Resolved

/-- Nothing, in front of what begins with a test. -/
def nothing (opening : Option CharTest) : Resolved := ⟨.empty, opening⟩

/-- A pattern in front of a resolved one. -/
def before (first : Resolved) (rest : Node) : Resolved :=
  match rest with
  | .empty => first
  | rest => ⟨.seq first.node rest, first.opening⟩

/-- A pattern that begins with no plain test. -/
def closed (node : Node) : Resolved := ⟨node, none⟩

/-- A test on one character. -/
def ofTest (test : CharTest) : Resolved :=
  ⟨.char test, if test.isPlain then some test else none⟩

end Resolved

/-- The condition that a place is, under flags. -/
def Place.anchor (flags : Flags) : Place → Anchor
  | lineBegin => if flags.multiLine then .lineStart else .textStart
  | lineFinish => if flags.multiLine then .lineEnd else .lastLineEnd
  | textBegin => .textStart
  | textFinish => .textEnd
  | wordEdge => .wordEdge flags.ascii
  | noWordEdge => .noWordEdge flags.ascii

/-- The test that a term is by itself, under flags. -/
def Term.test? (flags : Flags) : Term → Option CharTest
  | point negated n => some (.ofPoint negated n flags.caseRule)
  | any => some (.any flags.dotAll)
  | oneOf negated items => some (.ofClass negated items flags.ascii flags.caseRule)
  | _ => none

mutual

/-- The test that a sequence is by itself, also inside groups that remember nothing. -/
def Term.onlyTest? (flags : Flags) : List Term → Option CharTest
  | [term] => term.soleTest? flags
  | _ => none

/-- The test that a term is by itself, also inside groups that remember nothing. -/
def Term.soleTest? (flags : Flags) : Term → Option CharTest
  | .plain body => Term.onlyTest? flags body
  | .scoped letters body => Term.onlyTest? (flags.within letters) body
  | term => term.test? flags

end

/-- A repetition of a test, or of a pattern. -/
def Node.repeating (greed : Greed) (least : Nat) (most : Option Nat) (test : Option CharTest)
    (body : Node) (following : Option CharTest) : Node :=
  let more := most.map (· - least)
  match test with
  | some test => .stretch greed least more test (following.bind CharTest.exactPoint?)
  | none => .repeated greed least more body

mutual

/-- Resolves a term in front of what begins with a test. -/
def Term.resolve (groups : Nat → Width) (flags : Flags) (following : Option CharTest) :
    Term → Except Fault Resolved
  | .point negated n => .ok (.ofTest (.ofPoint negated n flags.caseRule))
  | .any => .ok (.ofTest (.any flags.dotAll))
  | .oneOf negated items => .ok (.ofTest (.ofClass negated items flags.ascii flags.caseRule))
  | .place p => .ok (.closed (.anchor (p.anchor flags)))
  | .choice arms => do return .closed (← Term.resolveArms groups flags arms)
  | .plain body => Term.resolveAll groups flags following body
  | .scoped letters body => Term.resolveAll groups (flags.within letters) following body
  | .group index body => do
    return .closed (.group index (← Term.resolveAll groups flags none body).node)
  | .repeated greed least most body =>
    if flags.template then refuse .repetitionInTemplate
    else do
      let inner ← Term.resolveAll groups flags none body
      let test := Term.onlyTest? flags body
      return .closed (.repeating greed least most test inner.node following)
  | .sameAs index => .ok (.closed (.sameAs index flags.caseRule))
  | .look behind negated body => do
    let width := Term.widthOf groups body
    if behind && width.least != width.most then refuse .lookBehindNotFixed
    else
      let inner ← Term.resolveAll groups flags none body
      return .closed (.look (if behind then width.least else 0) negated inner.node)
  | .atomic body => do
    return .closed (.atomic (← Term.resolveAll groups flags none body).node)
  | .ifGroup index yes no => do
    let second ← Term.resolveAll groups flags following no
    let first ← Term.resolveAll groups flags (if no.isEmpty then following else none) yes
    return .closed (.ifGroup index first.node second.node)

/-- Resolves a sequence in front of what begins with a test. -/
def Term.resolveAll (groups : Nat → Width) (flags : Flags) (following : Option CharTest) :
    List Term → Except Fault Resolved
  | [] => .ok (.nothing following)
  | term :: rest => do
    let behind ← Term.resolveAll groups flags following rest
    let first ← term.resolve groups flags behind.opening
    return first.before behind.node

/-- Resolves a choice. -/
def Term.resolveArms (groups : Nat → Width) (flags : Flags) :
    List (List Term) → Except Fault Node
  | [] => .ok .never
  | arm :: rest => do
    let first ← Term.resolveAll groups flags none arm
    return .either first.opening first.node (← Term.resolveArms groups flags rest)

end

/-! ## Nesting -/

mutual

/-- How deeply a term is nested. -/
def Term.depth : Term → Nat
  | .choice arms => Term.armsDepth arms + 1
  | .plain body | .scoped _ body | .group _ body | .repeated _ _ _ body | .look _ _ body
  | .atomic body => Term.depthOf body + 1
  | .ifGroup _ yes no => max (Term.depthOf yes) (Term.depthOf no) + 1
  | _ => 0

/-- How deeply a sequence is nested. -/
def Term.depthOf : List Term → Nat
  | [] => 0
  | term :: rest => max term.depth (Term.depthOf rest)

/-- How deeply a choice is nested. -/
def Term.armsDepth : List (List Term) → Nat
  | [] => 0
  | arm :: rest => max (Term.depthOf arm) (Term.armsDepth rest)

end

end SourceAudit.Pattern
