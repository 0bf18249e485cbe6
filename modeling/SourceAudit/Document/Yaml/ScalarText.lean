-- The texts of a document, in their three spellings: blocks of lines, texts in quotes, and
-- plain texts. Every reader starts at the first character of its spelling, and each step reads
-- at least one character, so as many steps as there are characters are enough.

import SourceAudit.Document.Yaml.Cursor
import SourceAudit.Document.Yaml.Token
import SourceAudit.Text.Digits

namespace SourceAudit.Document.Yaml

open SourceAudit.Text (CodePoint isHex numberOf)

/-- What a line break and the breaks behind it come to inside a text: a single one is a space,
and of several the first is dropped. -/
def foldBreaks (first : Char) (more : List Char) : List Char :=
  if first != '\n' then first :: more
  else if more.isEmpty then [' ']
  else more

/-- The rest of a line that may hold only a comment, and its end. -/
def skipRestOfLine (c : Cursor) (fault : Fault) : Except Fault Cursor :=
  let c := c.skipSpaces.skipComment
  match c.lineBreak? with
  | some (_, c) => .ok c
  | none => if c.atEnd then .ok c else .error fault

/-! ## Blocks of lines -/

/-- What is kept of the breaks at the end of a block. -/
inductive Chomping where
  | strip
  | clip
  | keep
  deriving DecidableEq, Repr

/-- The characters that choose what is kept at the end. -/
def chomping? : Char → Option Chomping
  | '-' => some .strip
  | '+' => some .keep
  | _ => none

/-- The characters that give the indentation. -/
def indentation? (c : Char) : Option Nat :=
  if c.isDigit then some (c.toNat - 48) else none

/-- Reads what stands behind the indicator of a block. -/
def blockHeader (c : Cursor) : Except Fault (Chomping × Option Nat × Cursor) := do
  let (first, c) := match chomping? c.peek with
    | some chomping => (some chomping, c.next)
    | none => (none, c)
  let (width, c) := match indentation? c.peek with
    | some width => (some width, c.next)
    | none => (none, c)
  let (chomping, c) := match first, width, chomping? c.peek with
    | some chomping, _, _ => (chomping, c)
    | none, some _, some chomping => (chomping, c.next)
    | none, _, _ => (.clip, c)
  if width = some 0 then throw .badBlockHeader
  if c.peek ≠ ' ' ∧ !endsLine c.peek then throw .badBlockHeader
  return (chomping, width, ← skipRestOfLine c .badBlockHeader)

/-- Empty lines in front of a block, and the deepest column that their spaces reach. -/
def leadingBreaks (breaks : List Char) (deepest : Nat) (c : Cursor) :
    (fuel : Nat) → List Char × Nat × Cursor
  | 0 => (breaks.reverse, deepest, c)
  | fuel + 1 =>
    match c.lineBreak? with
    | some (b, c) => leadingBreaks (b :: breaks) deepest c fuel
    | none =>
      if c.peek = ' ' then leadingBreaks breaks (max deepest c.next.column) c.next fuel
      else (breaks.reverse, deepest, c)

/-- Empty lines inside a block, and the indentation of the line behind them. -/
def innerBreaks (indent : Nat) (breaks : List Char) (c : Cursor) :
    (fuel : Nat) → List Char × Cursor
  | 0 => (breaks.reverse, c)
  | fuel + 1 =>
    let c := c.skipSpacesTo indent
    match c.lineBreak? with
    | some (b, c) => innerBreaks indent (b :: breaks) c fuel
    | none => (breaks.reverse, c)

/-- A block that has been read: its text without the final breaks, the last break, and the
empty lines behind it. -/
structure BlockText where
  text : List Char
  lastBreak : List Char
  trailing : List Char
  cursor : Cursor

/-- Reads the lines of a block, where `done` has been read, nearest character first, and `breaks`
come next. -/
def blockLines (folded : Bool) (indent : Nat) (done breaks : List Char) (c : Cursor) :
    (fuel : Nat) → BlockText
  | 0 => ⟨done.reverse, [], breaks, c⟩
  | fuel + 1 =>
    let (line, behind) := c.takeWhile fun x => !endsLine x
    let done := line.reverse ++ (breaks.reverse ++ done)
    let (lastBreak, behind) := match behind.lineBreak? with
      | some (b, behind) => ([b], behind)
      | none => ([], behind)
    let (breaks, behind) := innerBreaks indent [] behind (behind.left + 1)
    if behind.column = indent ∧ !behind.atEnd then
      let joins := folded && lastBreak == ['\n'] && !isGap c.peek && !isGap behind.peek
      let between := if joins then (if breaks.isEmpty then [' '] else []) else lastBreak
      blockLines folded indent (between ++ done) breaks behind fuel
    else ⟨done.reverse, lastBreak, breaks, behind⟩

/-- Reads a block of lines inside a block of the given indentation. -/
def blockText (folded : Bool) (outer : Int) (c : Cursor) : Except Fault (String × Cursor) := do
  let (chomping, width, c) ← blockHeader c.next
  let least := (max (outer + 1) 1).toNat
  let steps := c.left + 1
  let (breaks, indent, c) := match width with
    | some width =>
      let indent := least + width - 1
      let (breaks, c) := innerBreaks indent [] c steps
      (breaks, indent, c)
    | none =>
      let (breaks, deepest, c) := leadingBreaks [] 0 c steps
      (breaks, max least deepest, c)
  let block : BlockText :=
    if c.column = indent ∧ !c.atEnd then blockLines folded indent [] breaks c steps
    else ⟨[], [], breaks, c⟩
  let ending := match chomping with
    | .strip => []
    | .clip => block.lastBreak
    | .keep => block.lastBreak ++ block.trailing
  return (String.ofList (block.text ++ ending), block.cursor)

/-! ## Texts in quotes -/

/-- Empty lines inside quotes. -/
def quotedBreaks (breaks : List Char) (c : Cursor) :
    (fuel : Nat) → Except Fault (List Char × Cursor)
  | 0 => .ok (breaks.reverse, c)
  | fuel + 1 =>
    if c.atDocumentMark then .error .markInQuotes
    else
      let c := c.skipWhile isGap
      match c.lineBreak? with
      | some (b, c) => quotedBreaks (b :: breaks) c fuel
      | none => .ok (breaks.reverse, c)

/-- Reads spaces and breaks inside quotes. -/
def quotedGap (c : Cursor) : Except Fault (List Char × Cursor) := do
  let (gap, c) := c.takeWhile isGap
  match c.lineBreak? with
  | some (first, c) =>
    let (more, c) ← quotedBreaks [] c (c.left + 1)
    return (foldBreaks first more, c)
  | none => return (gap, c)

/-- Escapes of a single character. -/
def shortEscape? : Char → Option Char
  | '0' => some '\x00'
  | 'a' => some '\x07'
  | 'b' => some '\x08'
  | 't' => some '\t'
  | '\t' => some '\t'
  | 'n' => some '\n'
  | 'v' => some '\x0b'
  | 'f' => some '\x0c'
  | 'r' => some '\r'
  | 'e' => some '\x1b'
  | ' ' => some ' '
  | '"' => some '"'
  | '\\' => some '\\'
  | '/' => some '/'
  | 'N' => some '\x85'
  | '_' => some '\xa0'
  | 'L' => some '\u2028'
  | 'P' => some '\u2029'
  | _ => none

/-- How many digits an escape by number has. -/
def escapeWidth? : Char → Option Nat
  | 'x' => some 2
  | 'u' => some 4
  | 'U' => some 8
  | _ => none

/-- The code point that an escape by number stands for. -/
def pointOfNumber (n : Nat) : Except Fault CodePoint :=
  if 0x7FFFFFFF < n then .error (.broken .pointTooLarge)
  else if h : n < 0x110000 then .ok ⟨n, h⟩
  else .error (.broken .pointBeyondAll)

/-- Reads an escape, from the character behind the backslash on. An escaped break leaves
nothing of itself. -/
def readEscape (c : Cursor) : Except Fault (List CodePoint × Cursor) :=
  match shortEscape? c.peek, escapeWidth? c.peek, c.lineBreak? with
  | some x, _, _ => .ok ([.ofChar x], c.next)
  | none, some width, _ =>
    let digits := c.next.rest.take width
    if digits.length < width ∨ !digits.all isHex then .error .unknownEscape
    else (pointOfNumber (numberOf 16 digits)).map fun p => ([p], c.next.forward width)
  | none, none, some (_, c) =>
    (quotedBreaks [] c (c.left + 1)).map fun (breaks, c) =>
      (breaks.map CodePoint.ofChar, c)
  | none, none, none => .error .unknownEscape

/-- Reads a text up to its closing quote, where `done` has been read, nearest code point
first. -/
def quotedFrom (quote : Char) (done : List CodePoint) (c : Cursor) :
    (fuel : Nat) → Except Fault (List CodePoint × Cursor)
  | 0 => .error .openQuotes
  | fuel + 1 => do
    let x := c.peek
    if c.atEnd then throw .openQuotes
    if x = quote then
      if quote = '\'' ∧ c.peekAt 1 = '\'' then
        quotedFrom quote (.ofChar '\'' :: done) (c.forward 2) fuel
      else return (done.reverse, c.next)
    else if quote = '"' ∧ x = '\\' then
      let (read, c) ← readEscape c.next
      quotedFrom quote (read.reverse ++ done) c fuel
    else if isGap x ∨ isBreak x then
      let (read, c) ← quotedGap c
      quotedFrom quote ((read.map CodePoint.ofChar).reverse ++ done) c fuel
    else quotedFrom quote (.ofChar x :: done) c.next fuel

/-- Reads a text in quotes. -/
def quotedText (c : Cursor) : Except Fault (WideText × Cursor) :=
  (quotedFrom c.peek [] c.next c.left).map fun (points, c) => (⟨points⟩, c)

/-! ## Plain texts -/

/-- A plain word ends before `x`, which `next` follows. In a flow, brackets and commas end
it. -/
def endsPlain (inFlow : Bool) (x next : Char) : Bool :=
  endsWord x || (x == ':' && (endsWord next || (inFlow && ",[]\x7b\x7d".contains next))) ||
    (inFlow && ",?[]\x7b\x7d".contains x)

/-- The plain word that characters begin with. -/
def plainWord (inFlow : Bool) : List Char → List Char
  | [] => []
  | x :: rest =>
    if endsPlain inFlow x (rest.headD endMark) then [] else x :: plainWord inFlow rest

/-- What stands between two words of a plain text. -/
structure PlainGap where
  between : List Char
  breaksLine : Bool
  cursor : Cursor

/-- Empty lines in a plain text. A mark of a document ends the text. -/
def plainBreaks (first : Char) (breaks : List Char) (c : Cursor) : (fuel : Nat) → PlainGap
  | 0 => ⟨[], true, c⟩
  | fuel + 1 =>
    if c.atDocumentMark then ⟨[], true, c⟩
    else
      let c := c.skipSpaces
      match c.lineBreak? with
      | some (b, c) => plainBreaks first (b :: breaks) c fuel
      | none => ⟨foldBreaks first breaks.reverse, true, c⟩

/-- Reads what stands behind a word of a plain text. -/
def plainGap (c : Cursor) : PlainGap :=
  let (spaces, c) := c.takeWhile (· == ' ')
  match c.lineBreak? with
  | some (first, c) => plainBreaks first [] c (c.left + 1)
  | none => ⟨spaces, false, c⟩

/-- A plain text that has been read, and whether a line ended behind its last word. -/
structure PlainText where
  text : String
  breaksLine : Bool
  cursor : Cursor

/-- Reads a plain text, where `done` has been read, nearest character first, and the gap behind
it. Lines that are not indented as deep as `indent` do not belong to it. -/
def plainFrom (inFlow : Bool) (indent : Int) (done : List Char) (gap : PlainGap) :
    (fuel : Nat) → PlainText
  | 0 => ⟨String.ofList done.reverse, gap.breaksLine, gap.cursor⟩
  | fuel + 1 =>
    let word := plainWord inFlow gap.cursor.rest
    if gap.cursor.peek = '#' ∨ word.isEmpty then
      ⟨String.ofList done.reverse, gap.breaksLine, gap.cursor⟩
    else
      let done := word.reverse ++ (gap.between.reverse ++ done)
      let gap := plainGap (gap.cursor.forward word.length)
      if gap.between.isEmpty ∨ (!inFlow ∧ gap.cursor.column < indent) then
        ⟨String.ofList done.reverse, gap.breaksLine, gap.cursor⟩
      else plainFrom inFlow indent done gap fuel

/-- Reads a plain text. -/
def plainText (inFlow : Bool) (indent : Int) (c : Cursor) : PlainText :=
  plainFrom inFlow indent [] ⟨[], false, c⟩ c.left

end SourceAudit.Document.Yaml
