-- What a match has to begin with. A search only tries places where such a character stands, so
-- what is told here decides where a pattern is tried at all.

import SourceAudit.Pattern.Term

namespace SourceAudit.Pattern

/-- What a sequence begins with, as far as single points are concerned. -/
inductive Lead where
  | point (n : Nat)
  | nothing
  | other
  deriving DecidableEq, Repr

mutual

/-- The point that a term begins with. A letter with another case is none where case is
ignored. -/
def Term.lead (flags : Flags) : Term → Lead
  | .point false n => if flags.caseRule.isCased n then .other else .point n
  | .plain body | .group _ body => Term.leadOf flags body
  | .scoped letters body => Term.leadOf (flags.within letters) body
  | _ => .other

/-- The point that a sequence begins with. -/
def Term.leadOf (flags : Flags) : List Term → Lead
  | [] => .nothing
  | term :: rest =>
    match term.lead flags with
    | .nothing => Term.leadOf flags rest
    | lead => lead

end

/-- The member of a class is the same for every case of its letters. -/
def ClassItem.isCaseless (rule : CaseRule) : ClassItem → Bool
  | point n => !rule.isCased n
  | range first last => !rule.meetsCased first last && (rule = .exact || last ≤ lastFolded)
  | kind .. => true

/-- The point that is the first term of an arm, where its case does not count. -/
def Term.armPoint? (flags : Flags) : List Term → Option ClassItem
  | .point false n :: _ => if flags.caseRule.isCased n then none else some (.point n)
  | _ => none

mutual

/-- The class that a term begins with. Its kinds are those of the whole pattern. -/
def Term.leadClass? (asciiKinds : Bool) (flags : Flags) : Term → Option CharTest
  | .oneOf negated items =>
    if items.all (·.isCaseless flags.caseRule) then some (.oneOf negated items asciiKinds .exact)
    else none
  | .choice arms =>
    (arms.mapM (Term.armPoint? flags)).map fun items => .oneOf false items asciiKinds .exact
  | .plain body | .group _ body => Term.leadClassOf? asciiKinds flags body
  | .scoped letters body => Term.leadClassOf? asciiKinds (flags.within letters) body
  | _ => none

/-- The class that a sequence begins with. -/
def Term.leadClassOf? (asciiKinds : Bool) (flags : Flags) : List Term → Option CharTest
  | [] => none
  | term :: _ => term.leadClass? asciiKinds flags

end

/-- The test that the first character of a match has to pass, for a pattern that never matches
the empty text. -/
def Term.opening? (flags : Flags) (terms : List Term) : Option CharTest :=
  match Term.leadOf flags terms with
  | .point n => some (.point false n .exact)
  | _ => Term.leadClassOf? flags.ascii flags terms

end SourceAudit.Pattern
