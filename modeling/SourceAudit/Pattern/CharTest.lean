-- Tests on one character: a given one, any, or one of a class. Where case is ignored, a
-- character is lowered first and then compared with the lower-case forms that count as equal. A
-- test whose letters have one case only is the plain one.

import SourceAudit.Text.Blank
import SourceAudit.Text.Category
import SourceAudit.Text.UpperCase

namespace SourceAudit.Pattern

/-- How letters are compared. -/
inductive CaseRule where
  | exact
  | ignoreAscii
  | ignoreAll
  deriving DecidableEq, Repr

/-- A kind of character that has a letter of its own in patterns. -/
inductive CharKind where
  | word
  | digit
  | space
  deriving DecidableEq, Repr

/-- The character is of the kind, among all characters or among the first 128. -/
def CharKind.holds (kind : CharKind) (asciiOnly : Bool) (c : Char) : Bool :=
  match kind, asciiOnly with
  | word, false => Text.isWordChar c
  | word, true => c.isAlphanum || c == '_'
  | digit, false => Text.isDecimalDigit c
  | digit, true => c.isDigit
  | space, false => Text.isBlank c
  | space, true => c == ' ' || (9 ≤ c.toNat && c.toNat ≤ 13)

/-- A member of a class. Points may be surrogates, which no text holds. -/
inductive ClassItem where
  | point (n : Nat)
  | range (first last : Nat)
  | kind (k : CharKind) (negated : Bool)
  deriving DecidableEq, Repr

/-- A test on one character. A point is compared with the lowered character; in a class, kinds
know all characters or the first 128. -/
inductive CharTest where
  | any (lineFeedToo : Bool)
  | point (negated : Bool) (n : Nat) (rule : CaseRule)
  | oneOf (negated : Bool) (items : List ClassItem) (asciiKinds : Bool) (rule : CaseRule)
  deriving DecidableEq, Repr

/-- The last point of the part of the alphabet in which case is folded in classes. -/
def lastFolded : Nat := 0xFFFF

/-! ## Case -/

namespace CaseRule

/-- The small form of a letter. -/
def lower (rule : CaseRule) (point : Nat) : Nat :=
  match rule with
  | exact => point
  | ignoreAscii => Text.asciiLower point
  | ignoreAll => Text.simpleLower point

/-- Other small letters that count as equal to one. -/
def companions (rule : CaseRule) (lowered : Nat) : List Nat :=
  if rule = ignoreAll then Text.caseCompanions lowered else []

/-- The letters whose small form is the given one. -/
def sources (rule : CaseRule) (lowered : Nat) : List Nat :=
  match rule with
  | exact => [lowered]
  | ignoreAscii =>
    if 97 ≤ lowered ∧ lowered ≤ 122 then [lowered, lowered - 32]
    else if Text.asciiLower lowered = lowered then [lowered] else []
  | ignoreAll => Text.lowerSources lowered

/-- The letter has another case. -/
def isCased (rule : CaseRule) (point : Nat) : Bool :=
  match rule with
  | exact => false
  | ignoreAscii => (65 ≤ point && point ≤ 90) || (97 ≤ point && point ≤ 122)
  | ignoreAll => Text.hasCase point

/-- Some letter of a range has another case. -/
def meetsCased (rule : CaseRule) (first last : Nat) : Bool :=
  match rule with
  | exact => false
  | ignoreAscii => (first ≤ 90 && 65 ≤ last) || (first ≤ 122 && 97 ≤ last)
  | ignoreAll => Text.caseTable.meets first last

end CaseRule

/-! ## Members of classes -/

namespace ClassItem

/-- The character is the member, or in it, as it stands. -/
def holds (asciiKinds : Bool) (c : Char) : ClassItem → Bool
  | point n => c.toNat == n
  | range first last => first ≤ c.toNat && c.toNat ≤ last
  | kind k negated => k.holds asciiKinds c != negated

/-- A lowered character counts as a point of a range. Up to U+FFFF every letter of the range is
lowered too; a range that reaches further also takes the character as it stands and its capital
form. -/
def rangeTakes (rule : CaseRule) (first last lowered : Nat) : Bool :=
  let within (point : Nat) : Bool := first ≤ point && point ≤ last
  (lowered :: rule.companions lowered).any (fun l =>
      (rule.sources l).any fun point => within point && point ≤ lastFolded) ||
    (lastFolded < last && (within lowered || within (Text.firstCapital lowered)))

/-- A lowered character counts as the member, or in it. A point beyond U+FFFF is compared with the
lowered character as it stands. -/
def takes (rule : CaseRule) (asciiKinds : Bool) (lowered : Nat) : ClassItem → Bool
  | point n =>
    if lastFolded < n then lowered == n
    else rule.lower n == lowered || (rule.companions (rule.lower n)).contains lowered
  | range first last => rangeTakes rule first last lowered
  | kind k negated => k.holds asciiKinds (Char.ofNat lowered) != negated

/-- The member has to be compared with lowered characters: a letter of it has another case, or it
lies beyond the letters that are folded. -/
def needsFolding (rule : CaseRule) : ClassItem → Bool
  | point n => rule.isCased n || lastFolded < n
  | range first last => rule.meetsCased first last || lastFolded < last
  | kind .. => false

end ClassItem

/-! ## Tests -/

namespace CharTest

/-- The character passes the test. -/
def accepts (c : Char) : CharTest → Bool
  | any lineFeedToo => lineFeedToo || c != '\n'
  | point negated n rule => (rule.lower c.toNat == n) != negated
  | oneOf negated items asciiKinds .exact => items.any (·.holds asciiKinds c) != negated
  | oneOf negated items asciiKinds rule =>
    items.any (·.takes rule asciiKinds (rule.lower c.toNat)) != negated

/-- The test for a point. A letter that other small letters count as equal to is a class. -/
def ofPoint (negated : Bool) (n : Nat) (rule : CaseRule) : CharTest :=
  if !rule.isCased n then .point negated n .exact
  else if (rule.companions (rule.lower n)).isEmpty then .point negated (rule.lower n) rule
  else .oneOf negated [.point n] false rule

/-- The test for a class. -/
def ofClass (negated : Bool) (items : List ClassItem) (asciiKinds : Bool) (rule : CaseRule) :
    CharTest :=
  .oneOf negated items asciiKinds
    (if rule ≠ .exact && items.any (·.needsFolding rule) then rule else .exact)

/-- The point that is the only one to pass the test as it stands. -/
def exactPoint? : CharTest → Option Nat
  | point false n .exact => some n
  | _ => none

/-- The test compares characters with a point or with a class as they stand. -/
def isPlain : CharTest → Bool
  | point false _ .exact => true
  | oneOf _ _ _ .exact => true
  | _ => false

/-- The test is for a class and lowers characters. -/
def isFolded : CharTest → Bool
  | oneOf _ _ _ rule => rule ≠ .exact
  | _ => false

end CharTest

end SourceAudit.Pattern
