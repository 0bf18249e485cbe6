-- Reading a pattern from its source text. The reader walks over the characters once and keeps
-- a stack of the groups that are open. Every step reads at least one character, so as many
-- steps as there are characters are enough.

import SourceAudit.Pattern.Fault
import SourceAudit.Pattern.Term
import SourceAudit.Text.Identifier
import SourceAudit.Text.NamedCharacter
import SourceAudit.Number.Integer

namespace SourceAudit.Pattern

open SourceAudit.Text (CodePoint isHex isOctal numberOf takeAtMost)

/-! ## What the reader keeps -/

/-- What an open parenthesis has begun. A look keeps the look-behind around it, and a condition
its first sequence once that is complete. -/
inductive Opener where
  | whole
  | plain
  | scoped (letters : FlagLetters)
  | capture (index : Nat)
  | look (behind negated : Bool) (around : Option Nat)
  | atomic
  | condition (index : Nat) (yes : Option (List Term))

/-- A group that is being read: the sequences before the current one and the terms of that, both
newest first. -/
structure Frame where
  opener : Opener
  verbose : Bool
  sequences : List (List Term) := []
  terms : List Term := []

/-- The state of the reader. `widths` holds the width of each group by its number less one, none
while it is open; `lookBehind` the number of groups when the outermost look-behind was opened;
`conditions` the groups that conditions name before they may exist. -/
structure Reader where
  frame : Frame
  flags : Flags
  outer : List Frame := []
  widths : List (Option Width) := []
  names : List (String × Nat) := []
  lookBehind : Option Nat := none
  conditions : List Nat := []

/-- The next step's state, and what is left to read. -/
abbrev ReadStep := Except Fault (Reader × List Char)

namespace Reader

/-- Puts a term behind the current sequence. -/
def push (r : Reader) (term : Term) : Reader :=
  { r with frame := { r.frame with terms := term :: r.frame.terms } }

/-- Puts a character behind the current sequence. -/
def pushPoint (r : Reader) (n : Nat) : Reader :=
  r.push (.point false n)

/-- The width of a group, by its number. -/
def groupWidth (r : Reader) (index : Nat) : Width :=
  ((r.widths[index - 1]?).getD none).getD .zero

/-- A group may be referred to here: it has been closed, and not within the same look-behind. -/
def checkLookBehind (r : Reader) (index : Nat) : Except Fault Unit :=
  match r.lookBehind with
  | none => .ok ()
  | some count =>
    match r.widths[index - 1]? with
    | some (some _) => if count < index then refuse .groupOfSameLookBehind else .ok ()
    | _ => refuse .openGroup

/-- Puts a reference to a group behind the current sequence. -/
def pushReference (r : Reader) (index : Nat) : Except Fault Reader :=
  match r.widths[index - 1]? with
  | none => refuse .unknownGroup
  | some none => refuse .openGroup
  | some (some _) => (r.checkLookBehind index).map fun _ => r.push (.sameAs index)

end Reader

/-- The current sequence of a group. -/
def Frame.sequence (frame : Frame) : List Term :=
  Term.opened frame.terms.reverse

/-- Everything that has been read in a group. -/
def Frame.content (frame : Frame) : List Term :=
  Term.choose (frame.sequences.reverse ++ [frame.sequence])

/-! ## Numbers and escapes -/

/-- Gives up the work on a text, unless it is no pattern because of what is left of it. -/
def abandonBefore (rest : List Char) (cause : Breakdown) : Except Fault α :=
  if rest = ['\\'] then refuse .endsInEscape else abandon cause

/-- A code point of exactly so many hexadecimal digits. -/
def readHex (count : Nat) (cs : List Char) : Except Fault (Nat × List Char) :=
  let digits := takeAtMost isHex count cs
  let n := numberOf 16 digits
  let rest := cs.drop count
  if digits.length < count then refuse .incompleteEscape
  else if 0x7FFFFFFF < n then abandonBefore rest .pointTooLarge
  else if 0x10FFFF < n then refuse .badEscape
  else .ok (n, rest)

/-- Characters that an escape stands for, apart from the backspace. -/
def controlEscape? : Char → Option Nat
  | 'a' => some 7
  | 'f' => some 12
  | 'n' => some 10
  | 'r' => some 13
  | 't' => some 9
  | 'v' => some 11
  | '\\' => some 92
  | _ => none

/-- Kinds of characters that an escape stands for, and whether it stands for all others. -/
def kindEscape? : Char → Option (CharKind × Bool)
  | 'd' => some (.digit, false)
  | 'D' => some (.digit, true)
  | 's' => some (.space, false)
  | 'S' => some (.space, true)
  | 'w' => some (.word, false)
  | 'W' => some (.word, true)
  | _ => none

/-- A character that its name in braces stands for. -/
def readNamed (cs : List Char) : Except Fault (Nat × List Char) :=
  match cs with
  | '\x7b' :: cs =>
    let name := cs.takeWhile (· != '\x7d')
    match cs.drop name.length, Text.namedCharacter? name with
    | _ :: rest, some n => .ok (n, rest)
    | _, _ => refuse .unknownCharacter
  | _ => refuse .unknownCharacter

/-- Escapes with digits or names in them, and those of characters that mean themselves. -/
def readPointEscape (c : Char) (rest : List Char) : Except Fault (Nat × List Char) :=
  match controlEscape? c with
  | some n => .ok (n, rest)
  | none =>
    if c = 'x' then readHex 2 rest
    else if c = 'u' then readHex 4 rest
    else if c = 'U' then readHex 8 rest
    else if c = 'N' then readNamed rest
    else if c.isAlpha ∨ c.isDigit then refuse .badEscape
    else .ok (c.toNat, rest)

/-- An escape inside a class. -/
def readClassEscape (c : Char) (rest : List Char) : Except Fault (ClassItem × List Char) :=
  match kindEscape? c with
  | some (kind, negated) => .ok (.kind kind negated, rest)
  | none =>
    if c = 'b' then .ok (.point 8, rest)
    else if isOctal c then
      let more := takeAtMost isOctal 2 rest
      let n := numberOf 8 (c :: more)
      if 0xFF < n then refuse .octalTooLarge else .ok (.point n, rest.drop more.length)
    else (readPointEscape c rest).map fun (n, rest) => (.point n, rest)

/-- The places that an escape stands for. -/
def placeEscape? : Char → Option Place
  | 'A' => some .textBegin
  | 'Z' => some .textFinish
  | 'b' => some .wordEdge
  | 'B' => some .noWordEdge
  | _ => none

/-- An escape that begins with a digit from one to nine: three octal digits stand for a
character, and anything else for a group. -/
def readDigitEscape (r : Reader) (c : Char) (rest : List Char) : ReadStep :=
  match rest with
  | d :: rest' =>
    if d.isDigit then
      match rest' with
      | e :: rest'' =>
        if isOctal c && isOctal d && isOctal e then
          let n := numberOf 8 [c, d, e]
          if 0xFF < n then refuse .octalTooLarge else .ok (r.pushPoint n, rest'')
        else (r.pushReference (numberOf 10 [c, d])).map (·, rest')
      | [] => (r.pushReference (numberOf 10 [c, d])).map (·, rest')
    else (r.pushReference (numberOf 10 [c])).map (·, rest)
  | [] => (r.pushReference (numberOf 10 [c])).map (·, rest)

/-- An escape outside a class. -/
def readEscape (r : Reader) (c : Char) (rest : List Char) : ReadStep :=
  match placeEscape? c, kindEscape? c with
  | some place, _ => .ok (r.push (.place place), rest)
  | none, some (kind, negated) => .ok (r.push (.oneOf false [.kind kind negated]), rest)
  | none, none =>
    if c = '0' then
      let more := takeAtMost isOctal 2 rest
      .ok (r.pushPoint (numberOf 8 more), rest.drop more.length)
    else if c.isDigit then readDigitEscape r c rest
    else (readPointEscape c rest).map fun (n, rest) => (r.pushPoint n, rest)

/-! ## Classes -/

/-- One character of a class, or an escape. -/
def readClassItem : List Char → Except Fault (ClassItem × List Char)
  | [] => refuse .unterminatedClass
  | ['\\'] => refuse .endsInEscape
  | '\\' :: c :: rest => readClassEscape c rest
  | c :: rest => .ok (.point c.toNat, rest)

/-- The range between two items, if both are points in order. -/
def rangeOf : ClassItem → ClassItem → Except Fault ClassItem
  | .point first, .point last =>
    if last < first then refuse .badRange else .ok (.range first last)
  | _, _ => refuse .badRange

/-- The items of a class up to its closing bracket, newest first. A closing bracket in front of
all items is an item. -/
def readClassItems :
    (steps : Nat) → List ClassItem → List Char → Except Fault (List ClassItem × List Char)
  | 0, _, _ => refuse .unterminatedClass
  | steps + 1, items, cs =>
    match cs, items with
    | ']' :: rest, _ :: _ => .ok (items, rest)
    | cs, items => do
      let (item, rest) ← readClassItem cs
      match rest with
      | '-' :: ']' :: rest => .ok (.point 45 :: item :: items, rest)
      | '-' :: rest =>
        let (last, rest) ← readClassItem rest
        let range ← rangeOf item last
        readClassItems steps (range :: items) rest
      | rest => readClassItems steps (item :: items) rest

/-- The term of a class. A class of one point is that point. -/
def classTerm (negated : Bool) : List ClassItem → Term
  | [.point n] => .point negated n
  | items => .oneOf negated items

/-- A class, behind its opening bracket. -/
def readClass (r : Reader) (cs : List Char) : ReadStep := do
  let (negated, cs) := match cs with
    | '^' :: rest => (true, rest)
    | cs => (false, cs)
  let (items, rest) ← readClassItems (cs.length + 1) [] cs
  return (r.push (classTerm negated items.reverse.eraseDups), rest)

/-! ## Quantifiers -/

/-- Puts the last term of the current sequence into a repetition. Of a group that changes nothing
the content is repeated. -/
def Reader.repeatLast (r : Reader) (least : Nat) (most : Option Nat) (rest : List Char) :
    ReadStep :=
  let (greed, behind) : Greed × List Char := match rest with
    | '?' :: rest => (.lazy, rest)
    | '+' :: rest => (.possessive, rest)
    | rest => (.greedy, rest)
  let finish (before : List Term) (body : List Term) : ReadStep :=
    let terms := .repeated greed least most body :: before
    .ok ({ r with frame := { r.frame with terms := terms } }, behind)
  match r.frame.terms with
  | [] => refuse .nothingToRepeat
  | .place _ :: _ => refuse .nothingToRepeat
  | .repeated .. :: _ => refuse .multipleRepeat
  | .plain body :: before => finish before body
  | term :: before => finish before [term]

/-- The counts of a quantifier in braces, behind the opening one, or nothing if the brace stands
for itself. Missing counts are none. -/
def readCounts? (cs : List Char) : Option (List Char × List Char × List Char) :=
  let low := cs.takeWhile Char.isDigit
  match cs.drop low.length with
  | '\x7d' :: rest => if low.isEmpty then none else some (low, low, rest)
  | ',' :: rest =>
    let high := rest.takeWhile Char.isDigit
    match rest.drop high.length with
    | '\x7d' :: rest => some (low, high, rest)
    | _ => none
  | _ => none

/-- The count that digits stand for; without digits there is none. -/
def readCount (digits rest : List Char) : Except Fault (Option Nat) :=
  if digits.isEmpty then .ok none
  else if Breakdown.digitLimit < digits.length then
    abandonBefore rest (.tooManyDigits (some digits.length))
  else
    let count := numberOf 10 digits
    if Width.unbounded ≤ count then abandonBefore rest .countTooLarge else .ok (some count)

/-- A brace, behind it: a quantifier, or the brace itself. -/
def readBrace (r : Reader) (cs : List Char) : ReadStep :=
  match readCounts? cs with
  | none => .ok (r.pushPoint 123, cs)
  | some (low, high, rest) => do
    let least := (← readCount low rest).getD 0
    let most ← readCount high rest
    if most.any (· < least) then refuse .repetitionReversed
    else r.repeatLast least most rest

/-! ## Groups -/

/-- The characters up to a terminator, which must come and must not come first. -/
def readName (terminator : Char) (cs : List Char) : Except Fault (String × List Char) :=
  let name := cs.takeWhile (· != terminator)
  match cs.drop name.length with
  | _ :: rest => if name.isEmpty then refuse .badGroupName else .ok (String.ofList name, rest)
  | [] => refuse .badGroupName

/-- Groups have smaller numbers than this. -/
def groupLimit : Nat := 1073741823

/-- The number of a group. -/
def readGroupNumber (name : String) : Except Fault Nat :=
  match Number.readInteger 10 name with
  | .ok n =>
    if n ≤ 0 then refuse .badGroupName
    else if groupLimit ≤ n.toNat then refuse .unknownGroup
    else .ok n.toNat
  | .error _ => refuse .badGroupName

/-- How much a group of a kind adds to the depth of the groups in it. -/
def Opener.depth : Opener → Nat
  | .whole => 0
  | .condition .. => 1
  | _ => 2

/-- How deeply groups may be nested. -/
def depthLimit : Nat := 984

/-- The depth of what is read now. -/
def Reader.depth (r : Reader) : Nat :=
  ((r.frame :: r.outer).map (·.opener.depth)).foldr (· + ·) 0

/-- Opens a group. -/
def Reader.opening (r : Reader) (opener : Opener) (verbose : Bool) : Except Fault Reader :=
  if depthLimit < r.depth + opener.depth then abandon .nestedTooDeep
  else .ok { r with frame := { opener := opener, verbose := verbose }, outer := r.frame :: r.outer }

/-- Opens a group that is remembered. -/
def Reader.openCapture (r : Reader) : Except Fault Reader :=
  let r := { r with widths := r.widths ++ [none] }
  r.opening (.capture r.widths.length) r.frame.verbose

/-- Opens a look at the text around. -/
def Reader.openLook (r : Reader) (behind negated : Bool) : Except Fault Reader :=
  let opener := Opener.look behind negated r.lookBehind
  let lookBehind := if behind then some (r.lookBehind.getD r.widths.length) else r.lookBehind
  { r with lookBehind := lookBehind }.opening opener r.frame.verbose

/-- The group that a condition names, by its name or its number. -/
def Reader.conditionGroup (r : Reader) (name : String) : Except Fault Nat :=
  if Text.isIdentifier name then
    match r.names.lookup name with
    | some index => .ok index
    | none => refuse .unknownGroup
  else readGroupNumber name

/-- Opens a condition, behind the name of its group. -/
def Reader.openCondition (r : Reader) (name : String) : Except Fault Reader := do
  let index ← r.conditionGroup name
  r.checkLookBehind index
  let r := { r with conditions := index :: r.conditions }
  r.opening (.condition index none) r.frame.verbose

/-! ## Flags -/

/-- Letters that stand for flags, as far as they go. -/
def isFlagLetter (c : Char) : Bool := "imsxatuL".toList.contains c

/-- A set of flags to switch on: only one of the two that choose an alphabet, and never the one
that no pattern over texts may have. -/
def fitOn (letters : List Char) : Bool :=
  !(letters.contains 'L') && !(letters.contains 'a' && letters.contains 'u')

/-- A set of flags to switch off: none that chooses an alphabet. -/
def fitOff (letters : List Char) : Bool :=
  !letters.isEmpty && !letters.any fun c => c == 'L' || c == 'a' || c == 'u'

/-- Nothing has been read yet. -/
def Reader.atStart (r : Reader) : Bool :=
  r.outer.isEmpty && r.frame.sequences.isEmpty && r.frame.terms.isEmpty

/-- Sets flags for the whole pattern, which is only possible at its start. -/
def Reader.setFlags (r : Reader) (letters : List Char) : Except Fault Reader :=
  if !r.atStart then refuse .flagsNotAtStart
  else
    let flags := r.flags.added letters
    .ok { r with flags := flags, frame := { r.frame with verbose := flags.verbose } }

/-- Opens a group with flags of its own. -/
def Reader.openScope (r : Reader) (letters : FlagLetters) : Except Fault Reader :=
  let flags : Flags := { verbose := r.frame.verbose }
  r.opening (.scoped letters) (flags.within letters).verbose

/-- Flags behind the question mark of a group. With a closing parenthesis they hold for the
whole pattern, and must stand in front of all else; with a colon they hold in the group. -/
def readFlags (r : Reader) (cs : List Char) : ReadStep :=
  let on := cs.takeWhile isFlagLetter
  if !fitOn on then refuse .badFlags
  else match cs.drop on.length with
    | ')' :: rest =>
      if on.isEmpty then refuse .unknownExtension else (r.setFlags on).map (·, rest)
    | ':' :: rest =>
      if on.isEmpty ∨ on.contains 't' then refuse .badFlags
      else (r.openScope ⟨on, []⟩).map (·, rest)
    | '-' :: rest =>
      let off := rest.takeWhile isFlagLetter
      if on.contains 't' ∨ off.contains 't' ∨ !fitOff off ∨ on.any off.contains then
        refuse .badFlags
      else match rest.drop off.length with
        | ':' :: rest => (r.openScope ⟨on, off⟩).map (·, rest)
        | _ => refuse .badFlags
    | _ => refuse .badFlags

/-- What a comment up to a closing parenthesis leaves to read. An escape hides the
parenthesis. -/
def dropGroupComment : List Char → Except Fault (List Char)
  | [] => refuse .unterminatedComment
  | '\\' :: _ :: rest => dropGroupComment rest
  | ')' :: rest => .ok rest
  | _ :: rest => dropGroupComment rest

/-- A group with a question mark, behind the mark. -/
def readExtension (r : Reader) (cs : List Char) : ReadStep :=
  match cs with
  | 'P' :: '<' :: rest => do
    let (name, rest) ← readName '>' rest
    if !Text.isIdentifier name then refuse .badGroupName
    else if (r.names.lookup name).isSome then refuse .groupNameTaken
    else
      let named := { r with names := (name, r.widths.length + 1) :: r.names }
      return (← named.openCapture, rest)
  | 'P' :: '=' :: rest => do
    let (name, rest) ← readName ')' rest
    match r.names.lookup name with
    | none => refuse .unknownGroup
    | some index => return (← r.pushReference index, rest)
  | ':' :: rest => (r.opening .plain r.frame.verbose).map (·, rest)
  | '#' :: rest => (dropGroupComment rest).map (r, ·)
  | '=' :: rest => (r.openLook false false).map (·, rest)
  | '!' :: rest => (r.openLook false true).map (·, rest)
  | '<' :: '=' :: rest => (r.openLook true false).map (·, rest)
  | '<' :: '!' :: rest => (r.openLook true true).map (·, rest)
  | '(' :: rest => do
    let (name, rest) ← readName ')' rest
    return (← r.openCondition name, rest)
  | '>' :: rest => (r.opening .atomic r.frame.verbose).map (·, rest)
  | c :: _ => if isFlagLetter c || c == '-' then readFlags r cs else refuse .unknownExtension
  | [] => refuse .unknownExtension

/-! ## Closing -/

/-- The term that a group has become. -/
def Frame.term (frame : Frame) : Term :=
  let body := frame.content
  match frame.opener with
  | .whole | .plain => .plain body
  | .scoped letters => .scoped letters body
  | .capture index => .group index body
  | .look behind negated _ => .look behind negated body
  | .atomic => .atomic body
  | .condition index none => .ifGroup index body []
  | .condition index (some yes) => .ifGroup index yes body

/-- A closing parenthesis: what the group has become stands behind the sequence around it. -/
def Reader.close (r : Reader) : Except Fault Reader :=
  match r.outer with
  | [] => refuse .unbalancedParenthesis
  | around :: outer =>
    let closed := { r with frame := around, outer := outer }.push r.frame.term
    match r.frame.opener with
    | .capture index =>
      let width := Term.widthOf r.groupWidth r.frame.content
      .ok { closed with widths := r.widths.set (index - 1) (some width) }
    | .look _ _ around => .ok { closed with lookBehind := around }
    | _ => .ok closed

/-- A bar: what follows is another sequence. -/
def Reader.nextSequence (r : Reader) : Except Fault Reader :=
  let frame := r.frame
  match frame.opener with
  | .condition _ (some _) => refuse .tooManyBranches
  | .condition index none =>
    let opener := Opener.condition index (some frame.sequence)
    .ok { r with frame := { frame with opener := opener, terms := [] } }
  | _ =>
    let sequences := frame.sequence :: frame.sequences
    .ok { r with frame := { frame with sequences := sequences, terms := [] } }

/-! ## The whole pattern -/

/-- White space that counts for nothing where flags allow comments. -/
def isLayout (c : Char) : Bool :=
  c == ' ' || (9 ≤ c.toNat && c.toNat ≤ 13)

/-- What a comment up to the end of its line leaves to read. An escape hides a line break. -/
def dropLineComment : List Char → Except Fault (List Char)
  | [] => .ok []
  | ['\\'] => refuse .endsInEscape
  | '\\' :: _ :: rest => dropLineComment rest
  | '\n' :: rest => .ok rest
  | _ :: rest => dropLineComment rest

/-- One step, at a character. -/
def readOne (r : Reader) (c : Char) (rest : List Char) : ReadStep :=
  if r.frame.verbose && isLayout c then .ok (r, rest)
  else if r.frame.verbose && c == '#' then (dropLineComment rest).map (r, ·)
  else match c with
    | '\\' =>
      match rest with
      | [] => refuse .endsInEscape
      | c :: rest => readEscape r c rest
    | '[' => readClass r rest
    | '*' => r.repeatLast 0 none rest
    | '+' => r.repeatLast 1 none rest
    | '?' => r.repeatLast 0 (some 1) rest
    | '\x7b' => readBrace r rest
    | '.' => .ok (r.push .any, rest)
    | '^' => .ok (r.push (.place .lineBegin), rest)
    | '$' => .ok (r.push (.place .lineFinish), rest)
    | '|' => r.nextSequence.map (·, rest)
    | ')' => r.close.map (·, rest)
    | '(' =>
      match rest with
      | '?' :: rest => readExtension r rest
      | rest => r.openCapture.map (·, rest)
    | c => .ok (r.pushPoint c.toNat, rest)

/-- Steps until nothing is left to read, or a parenthesis closes nothing. -/
def readAll : (steps : Nat) → Reader → List Char → Except Fault (Reader × List Char)
  | _, r, [] => .ok (r, [])
  | 0, r, rest => .ok (r, rest)
  | steps + 1, r, c :: rest =>
    if c = ')' ∧ r.outer.isEmpty then .ok (r, c :: rest)
    else
      match readOne r c rest with
      | .error fault => .error fault
      | .ok (r, rest) => readAll steps r rest

/-- A code point as a character, or as an escape if it is a surrogate. -/
def spelledPoint (p : CodePoint) : List Char :=
  match p.toChar? with
  | some c => [c]
  | none => '\\' :: 'u' :: Text.hexDigits 4 p.val

/-- A source text as characters. A backslash in front of a surrogate means nothing. -/
def spelled : List CodePoint → List Char
  | [] => []
  | [p] => spelledPoint p
  | p :: q :: rest =>
    if p = .ofChar '\\' then
      if q.isSurrogate then spelledPoint q ++ spelled rest
      else spelledPoint p ++ spelledPoint q ++ spelled rest
    else spelledPoint p ++ spelled (q :: rest)

/-- A pattern as it has been read, with the flags that hold for the whole of it, and the widths of
its groups. -/
structure Draft where
  terms : List Term
  flags : Flags
  groupWidth : Nat → Width

/-- Reads a pattern. -/
def Draft.ofText (ignoreCase : Bool) (source : WideText) : Except Fault Draft := do
  let flags : Flags := { ignoreCase := ignoreCase }
  let start : Reader := { frame := { opener := .whole, verbose := false }, flags := flags }
  let cs := spelled source.points
  let (r, rest) ← readAll cs.length start cs
  if !r.outer.isEmpty then refuse .unterminatedGroup
  else if r.flags.ascii && r.flags.unicode then abandon .alphabetsClash
  else if !rest.isEmpty then refuse .unbalancedParenthesis
  else if r.conditions.any (r.widths.length < ·) then refuse .unknownGroup
  else return ⟨r.frame.content, r.flags, r.groupWidth⟩

end SourceAudit.Pattern
