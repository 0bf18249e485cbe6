-- Search patterns as they are written: sequences of terms whose flags have not been applied yet.
-- Also what is joined while a pattern is read: choices that begin alike, or that choose between
-- single characters.

import SourceAudit.Pattern.CharTest

namespace SourceAudit.Pattern

/-! ## Flags -/

/-- Flags that hold for a pattern or a part of it. `unicode` and `template` tell that they have
been asked for. -/
structure Flags where
  ignoreCase : Bool := false
  multiLine : Bool := false
  dotAll : Bool := false
  verbose : Bool := false
  ascii : Bool := false
  unicode : Bool := false
  template : Bool := false
  deriving DecidableEq, Repr

/-- Letters of flags that are switched on and off. -/
structure FlagLetters where
  on : List Char
  off : List Char := []
  deriving DecidableEq, Repr

namespace Flags

/-- Adds flags by their letters. -/
def added (flags : Flags) (letters : List Char) : Flags where
  ignoreCase := flags.ignoreCase || letters.contains 'i'
  multiLine := flags.multiLine || letters.contains 'm'
  dotAll := flags.dotAll || letters.contains 's'
  verbose := flags.verbose || letters.contains 'x'
  ascii := flags.ascii || letters.contains 'a'
  unicode := flags.unicode || letters.contains 'u'
  template := flags.template || letters.contains 't'

/-- The flags of a part of a pattern. One alphabet takes the place of the other. -/
def within (flags : Flags) (letters : FlagLetters) : Flags where
  ignoreCase := (flags.ignoreCase || letters.on.contains 'i') && !letters.off.contains 'i'
  multiLine := (flags.multiLine || letters.on.contains 'm') && !letters.off.contains 'm'
  dotAll := (flags.dotAll || letters.on.contains 's') && !letters.off.contains 's'
  verbose := (flags.verbose || letters.on.contains 'x') && !letters.off.contains 'x'
  ascii := (flags.ascii && !letters.on.contains 'u') || letters.on.contains 'a'
  unicode := flags.unicode
  template := flags.template

/-- How letters are compared. -/
def caseRule (flags : Flags) : CaseRule :=
  if flags.ignoreCase then (if flags.ascii then .ignoreAscii else .ignoreAll) else .exact

end Flags

/-! ## Terms -/

/-- How many rounds a repetition tries first. -/
inductive Greed where
  /-- As many as possible, then fewer. -/
  | greedy
  /-- As few as possible, then more. -/
  | lazy
  /-- As many as possible, and never fewer. -/
  | possessive
  deriving DecidableEq, Repr

/-- A place between two characters that a pattern may name. -/
inductive Place where
  | lineBegin
  | lineFinish
  | textBegin
  | textFinish
  | wordEdge
  | noWordEdge
  deriving DecidableEq, Repr

/-- A piece of a pattern. -/
inductive Term where
  | point (negated : Bool) (n : Nat)
  | any
  | oneOf (negated : Bool) (items : List ClassItem)
  | place (p : Place)
  | choice (arms : List (List Term))
  /-- A group that changes nothing. -/
  | plain (body : List Term)
  /-- A group with flags of its own. -/
  | scoped (letters : FlagLetters) (body : List Term)
  /-- Remembers what the body matched, under a number. -/
  | group (index : Nat) (body : List Term)
  /-- From `least` to `most` rounds of the body; without `most` there is no greatest number. -/
  | repeated (greed : Greed) (least : Nat) (most : Option Nat) (body : List Term)
  /-- The text that a group has matched. -/
  | sameAs (index : Nat)
  /-- Looks at the text around, and moves nowhere. -/
  | look (behind negated : Bool) (body : List Term)
  /-- The first way in which the body matches, and no other. -/
  | atomic (body : List Term)
  /-- One of two sequences, by whether a group has matched. -/
  | ifGroup (index : Nat) (yes no : List Term)

namespace Term

/-- Two terms are the same and have no terms inside. -/
def sameLeaf : Term → Term → Bool
  | point a n, point b m => a == b && n == m
  | any, any => true
  | oneOf a items, oneOf b others => a == b && items == others
  | place p, place q => p == q
  | sameAs i, sameAs j => i == j
  | _, _ => false

/-- The members of a class that the term is by itself. -/
def members? : Term → Option (List ClassItem)
  | point false n => some [.point n]
  | oneOf false items => some items
  | _ => none

/-! ## Sequences and choices -/

/-- A sequence in which groups that change nothing are opened up. -/
def opened (terms : List Term) : List Term :=
  terms.flatMap fun
    | plain body => body
    | term => [term]

/-- What a sequence and all the others begin with, as far as it has no terms inside. -/
def sharedStart : List Term → (others : List (List Term)) → List Term
  | [], _ => []
  | term :: rest, others =>
    if others.all fun arm => arm.head?.any (·.sameLeaf term) then
      term :: sharedStart rest (others.map List.tail)
    else []

/-- The members of all sequences, where each of them is one character of a class. -/
def jointMembers? (arms : List (List Term)) : Option (List ClassItem) :=
  let members : Option (List (List ClassItem)) := arms.mapM fun
    | [term] => members? term
    | _ => none
  members.map fun items => items.flatten.eraseDups

/-- The choice between sequences, in their order. What all of them begin with is taken out, and a
choice between characters is a class. -/
def choose : List (List Term) → List Term
  | [] => []
  | [only] => only
  | first :: others =>
    let shared := sharedStart first others
    let rests := (first :: others).map (·.drop shared.length)
    match jointMembers? rests with
    | some items => shared ++ [oneOf false items]
    | none => shared ++ [choice rests]

end Term

/-! ## Width -/

/-- The least and the greatest number of characters that a pattern can match. -/
structure Width where
  least : Nat
  most : Nat
  deriving DecidableEq, Repr

namespace Width

/-- Counts end here: as a greatest number of rounds or characters, it stands for any number. -/
def unbounded : Nat := 4294967295

/-- The greatest of the least numbers. -/
def greatestLeast : Nat := 4294967294

def zero : Width := ⟨0, 0⟩

def one : Width := ⟨1, 1⟩

/-- One pattern behind another. -/
def add (a b : Width) : Width := ⟨a.least + b.least, a.most + b.most⟩

/-- Either pattern. -/
def max (a b : Width) : Width := ⟨Nat.min a.least b.least, Nat.max a.most b.most⟩

/-- A pattern in several rounds. -/
def times (w : Width) (least : Nat) (most : Option Nat) : Width :=
  ⟨w.least * least, w.most * most.getD unbounded⟩

/-- The width as it is kept for a sequence. -/
def capped (w : Width) : Width :=
  ⟨Nat.min w.least greatestLeast, Nat.min w.most unbounded⟩

end Width

mutual

/-- The width of a term, given those of the groups it may refer to, by their numbers. -/
def Term.width (groups : Nat → Width) : Term → Width
  | .point .. | .any | .oneOf .. => .one
  | .place _ | .look .. => .zero
  | .choice arms => Term.armsWidth groups arms
  | .plain body | .scoped _ body | .group _ body | .atomic body => Term.widthOf groups body
  | .repeated _ least most body => (Term.widthOf groups body).times least most
  | .sameAs index => groups index
  | .ifGroup _ yes no => (Term.widthOf groups yes).max (Term.widthOf groups no)

/-- The width of a sequence. -/
def Term.widthOf (groups : Nat → Width) : List Term → Width
  | [] => .zero
  | term :: rest => ((term.width groups).add (Term.widthOf groups rest)).capped

/-- The width of a choice. -/
def Term.armsWidth (groups : Nat → Width) : List (List Term) → Width
  | [] => ⟨Width.greatestLeast, 0⟩
  | arm :: rest => (Term.widthOf groups arm).max (Term.armsWidth groups rest)

end

end SourceAudit.Pattern
