-- From characters to tokens. The lexer keeps the columns of the open blocks, the brackets that
-- are open, and for every bracket the place where a key may turn out to have begun: only the
-- colon behind it tells.

import SourceAudit.Document.Yaml.ScalarText
import SourceAudit.Text.Utf8

namespace SourceAudit.Document.Yaml

open SourceAudit.Text (isHex numberOf)

/-! ## Names, tags and directives -/

/-- A character of a name. -/
def isNameChar (c : Char) : Bool :=
  c.isAlphanum || c == '-' || c == '_'

/-- A character of a tag, escapes apart. -/
def isTagChar (c : Char) : Bool :=
  c.isAlphanum || "-;/?:@&=+$,_.!~*'()[]".contains c

/-- Reads the name behind an indicator. -/
def readName (c : Cursor) : Except Fault (String × Cursor) :=
  let (name, c) := c.next.takeWhile isNameChar
  if name.isEmpty then .error .badName
  else if endsWord c.peek ∨ "?:,]\x7d%@`".contains c.peek then .ok (String.ofList name, c)
  else .error .badName

/-- Reads the bytes of a run of escapes in a tag. -/
def tagBytes (bytes : List UInt8) (c : Cursor) : (fuel : Nat) → Except Fault (List UInt8 × Cursor)
  | 0 => .ok (bytes.reverse, c)
  | fuel + 1 =>
    if c.peek ≠ '%' then .ok (bytes.reverse, c)
    else
      let digits := c.next.rest.take 2
      if digits.length < 2 ∨ !digits.all isHex then .error .badTag
      else tagBytes (UInt8.ofNat (numberOf 16 digits) :: bytes) (c.forward 3) fuel

/-- Reads the text of a tag, where `done` has been read, nearest character first. -/
def tagText (done : List Char) (c : Cursor) : (fuel : Nat) → Except Fault (String × Cursor)
  | 0 => .error .badTag
  | fuel + 1 =>
    if isTagChar c.peek then tagText (c.peek :: done) c.next fuel
    else if c.peek = '%' then
      match tagBytes [] c c.left with
      | .error fault => .error fault
      | .ok (bytes, c) =>
        match Text.readUtf8 bytes with
        | .error _ => .error .badTag
        | .ok read => tagText (read.reverse ++ done) c fuel
    else if done.isEmpty then .error .badTag
    else .ok (String.ofList done.reverse, c)

/-- Reads the text of a tag. -/
def readTagText (c : Cursor) : Except Fault (String × Cursor) :=
  tagText [] c (c.left + 1)

/-- Reads the handle of a tag, with the marks around its name. -/
def readHandle (c : Cursor) : Except Fault (String × Cursor) :=
  if c.peek ≠ '!' then .error .badTag
  else
    let (name, behind) := c.next.takeWhile isNameChar
    if behind.peek = '!' then .ok (String.ofList ('!' :: name ++ ['!']), behind.next)
    else if c.peekAt 1 = ' ' then .ok ("!", c.next)
    else .error .badTag

/-- Reads a tag. -/
def readTag (c : Cursor) : Except Fault (Token × Cursor) := do
  let (token, c) ←
    if c.peekAt 1 = '<' then do
      let (suffix, c) ← readTagText (c.forward 2)
      if c.peek ≠ '>' then throw .badTag
      pure (Token.tag none suffix, c.next)
    else if endsWord (c.peekAt 1) then pure (Token.tag none "!", c.next)
    else do
      let word := c.next.rest.takeWhile fun x => x != ' ' && !endsLine x
      let (handle, c) ← if word.contains '!' then readHandle c else pure ("!", c.next)
      let (suffix, c) ← readTagText c
      pure (Token.tag (some handle) suffix, c)
  if c.peek = ' ' ∨ endsLine c.peek then return (token, c) else throw .badTag

/-- Reads a number of a version. -/
def readVersionPart (c : Cursor) : Except Fault (Nat × Cursor) :=
  let (digits, c) := c.takeWhile Char.isDigit
  if digits.isEmpty then .error .badDirective else .ok (numberOf 10 digits, c)

/-- Something separate follows. -/
def expectGap (c : Cursor) : Except Fault Unit :=
  if c.peek = ' ' ∨ endsLine c.peek then .ok () else .error .badDirective

/-- Reads a directive with its line. -/
def readDirective (c : Cursor) : Except Fault (Token × Cursor) := do
  let (name, c) := c.next.takeWhile isNameChar
  if name.isEmpty then throw .badDirective
  expectGap c
  let (directive, c) ←
    if name = "YAML".toList then do
      let (major, c) ← readVersionPart c.skipSpaces
      if c.peek ≠ '.' then throw .badDirective
      let (_, c) ← readVersionPart c.next
      expectGap c
      pure (Directive.version major, c)
    else if name = "TAG".toList then do
      let (handle, c) ← readHandle c.skipSpaces
      if c.peek ≠ ' ' then throw .badDirective
      let (expansion, c) ← readTagText c.skipSpaces
      expectGap c
      pure (Directive.handle handle expansion, c)
    else pure (Directive.other, c.skipWhile fun x => !endsLine x)
  return (.directive directive, ← skipRestOfLine c .badDirective)

/-! ## The state of the lexer -/

/-- A place where a key may have begun: the number of tokens before it, and whether a key has to
stand there. -/
structure PendingKey where
  number : Nat
  required : Bool
  index : Nat
  line : Nat
  column : Nat
  deriving DecidableEq, Repr

/-- What the lexer keeps. Tokens are held newest first, and counted. The column of the innermost
open block is below zero if there is none; `outer` holds the columns around it. Every open bracket
puts one entry on `outerKeys`. -/
structure Lexer where
  cursor : Cursor
  tokens : List Token := []
  count : Nat := 0
  indent : Int := -1
  outer : List Int := []
  keyMayBegin : Bool := true
  key : Option PendingKey := none
  outerKeys : List (Option PendingKey) := []

namespace Lexer

/-- A bracket is open. -/
def inFlow (l : Lexer) : Bool :=
  !l.outerKeys.isEmpty

/-- Puts a token behind the others. -/
def push (l : Lexer) (token : Token) : Lexer :=
  { l with tokens := token :: l.tokens, count := l.count + 1 }

/-- Puts a token in front of all but the first `number` tokens. -/
def insertAt (l : Lexer) (number : Nat) (token : Token) : Lexer :=
  let behind := l.count - number
  { l with
    tokens := l.tokens.take behind ++ token :: l.tokens.drop behind
    count := l.count + 1 }

/-- A place can no longer be the beginning of a key: a key stands on one line, and is short. -/
def isStale (l : Lexer) (key : PendingKey) : Bool :=
  key.line != l.cursor.line || key.index + 1024 < l.cursor.index

/-- Forgets a place that is stale. -/
def refresh (l : Lexer) : Option PendingKey → Except Fault (Option PendingKey)
  | none => .ok none
  | some key =>
    if !l.isStale key then .ok (some key)
    else if key.required then .error .keyWithoutValue
    else .ok none

/-- Forgets all places that are stale. -/
def refreshKeys (l : Lexer) : Except Fault Lexer := do
  let key ← l.refresh l.key
  let outerKeys ← l.outerKeys.mapM l.refresh
  return { l with key := key, outerKeys := outerKeys }

/-- Forgets the place where a key may have begun. -/
def dropKey (l : Lexer) : Except Fault Lexer :=
  match l.key with
  | none => .ok l
  | some key => if key.required then .error .keyWithoutValue else .ok { l with key := none }

/-- Remembers that a key may begin here. -/
def saveKey (l : Lexer) : Except Fault Lexer :=
  if !l.keyMayBegin then .ok l
  else
    l.dropKey.map fun l =>
      { l with key := some {
          number := l.count
          required := !l.inFlow && l.indent == l.cursor.column
          index := l.cursor.index
          line := l.cursor.line
          column := l.cursor.column } }

/-- Closes the blocks that begin right of a column. -/
def closeBlocks (l : Lexer) (column : Int) : List Int → Lexer
  | [] => l
  | next :: outer =>
    if column < l.indent then
      closeBlocks { l.push .blockEnd with indent := next, outer := outer } column outer
    else l

/-- Goes back to a column. Inside brackets columns mean nothing. -/
def unwind (l : Lexer) (column : Int) : Lexer :=
  if l.inFlow then l else l.closeBlocks column l.outer

/-- Opens a block at a column, if it is right of the innermost one; `first` begins it, in front of
all but the first `number` tokens. -/
def openBlock (l : Lexer) (column number : Nat) (first : Token) : Lexer :=
  if l.indent < column then
    { l.insertAt number first with indent := column, outer := l.indent :: l.outer }
  else l

/-- Goes to the next token. Where a line begins outside of brackets, so may a key. -/
def skipToToken (l : Lexer) : (fuel : Nat) → Lexer
  | 0 => l
  | fuel + 1 =>
    let c := l.cursor.skipSpaces.skipComment
    match c.lineBreak? with
    | some (_, c) =>
      skipToToken { l with cursor := c, keyMayBegin := l.keyMayBegin || !l.inFlow } fuel
    | none => { l with cursor := c }

/-! ## Tokens -/

/-- A token that ends all blocks. -/
def documentMark (l : Lexer) (token : Token) : Except Fault Lexer :=
  (l.unwind (-1)).dropKey.map fun l =>
    { l.push token with cursor := l.cursor.forward 3, keyMayBegin := false }

/-- A directive. -/
def directive (l : Lexer) : Except Fault Lexer := do
  let l ← (l.unwind (-1)).dropKey
  let (token, c) ← readDirective l.cursor
  return { l.push token with cursor := c, keyMayBegin := false }

/-- An opening bracket. -/
def openBracket (l : Lexer) (token : Token) : Except Fault Lexer :=
  l.saveKey.map fun l =>
    { l.push token with
      cursor := l.cursor.next
      keyMayBegin := true
      key := none
      outerKeys := l.key :: l.outerKeys }

/-- A closing bracket. -/
def closeBracket (l : Lexer) (token : Token) : Except Fault Lexer := do
  let l ← l.dropKey
  match l.outerKeys with
  | [] => throw .unbalancedBracket
  | key :: outerKeys =>
    return { l.push token with
      cursor := l.cursor.next
      keyMayBegin := false
      key := key
      outerKeys := outerKeys }

/-- A comma inside brackets. -/
def flowEntry (l : Lexer) : Except Fault Lexer :=
  l.dropKey.map fun l => { l.push .flowEntry with cursor := l.cursor.next, keyMayBegin := true }

/-- The dash of an entry. -/
def blockEntry (l : Lexer) : Except Fault Lexer := do
  if !l.inFlow ∧ !l.keyMayBegin then throw .entryNotAllowed
  let opened :=
    if l.inFlow then l else l.openBlock l.cursor.column l.count .blockSequence
  let l ← opened.dropKey
  return { l.push .blockEntry with cursor := l.cursor.next, keyMayBegin := true }

/-- The question mark of a key. -/
def explicitKey (l : Lexer) : Except Fault Lexer := do
  if !l.inFlow ∧ !l.keyMayBegin then throw .keyNotAllowed
  let opened :=
    if l.inFlow then l else l.openBlock l.cursor.column l.count .blockMapping
  let l ← opened.dropKey
  return { l.push .key with cursor := l.cursor.next, keyMayBegin := !l.inFlow }

/-- The colon of a value. What may have been a key has been one. -/
def value (l : Lexer) : Except Fault Lexer :=
  match l.key with
  | some key =>
    let l := { l with key := none }.insertAt key.number .key
    let l := if l.inFlow then l else l.openBlock key.column key.number .blockMapping
    .ok { l.push .value with cursor := l.cursor.next, keyMayBegin := false }
  | none =>
    if !l.inFlow ∧ !l.keyMayBegin then .error .valueNotAllowed
    else
      let l := if l.inFlow then l else l.openBlock l.cursor.column l.count .blockMapping
      .ok { l.push .value with cursor := l.cursor.next, keyMayBegin := !l.inFlow }

/-- A token that a key may consist of or begin with. -/
def keyPart (l : Lexer) (read : Cursor → Except Fault (Token × Cursor)) : Except Fault Lexer := do
  let l ← l.saveKey
  let (token, c) ← read l.cursor
  return { l.push token with cursor := c, keyMayBegin := false }

/-- A block of lines. -/
def block (l : Lexer) (folded : Bool) : Except Fault Lexer := do
  let l ← l.dropKey
  let (text, c) ← blockText folded l.indent l.cursor
  return { l.push (.scalar text false) with cursor := c, keyMayBegin := true }

/-- A plain text. -/
def plain (l : Lexer) : Except Fault Lexer :=
  l.saveKey.map fun l =>
    let read := plainText l.inFlow (l.indent + 1) l.cursor
    { l.push (.scalar read.text true) with
      cursor := read.cursor
      keyMayBegin := read.breaksLine }

/-- A character that may begin a plain text, before `next`. -/
def beginsPlain (inFlow : Bool) (x next : Char) : Bool :=
  !(endsWord x || "-?:,[]\x7b\x7d#&*!|>'\"%@`".contains x) ||
    (!endsWord next && (x == '-' || (!inFlow && (x == '?' || x == ':'))))

/-- Reads the token at the cursor. -/
def readToken (l : Lexer) : Except Fault Lexer :=
  let c := l.cursor
  let x := c.peek
  let next := c.peekAt 1
  if x = '%' ∧ c.column = 0 then l.directive
  else if c.column = 0 ∧ c.atTriple '-' then l.documentMark .documentStart
  else if c.column = 0 ∧ c.atTriple '.' then l.documentMark .documentEnd
  else if x = '[' then l.openBracket .flowSequence
  else if x = '\x7b' then l.openBracket .flowMapping
  else if x = ']' then l.closeBracket .flowSequenceEnd
  else if x = '\x7d' then l.closeBracket .flowMappingEnd
  else if x = ',' then l.flowEntry
  else if x = '-' ∧ endsWord next then l.blockEntry
  else if x = '?' ∧ (l.inFlow ∨ endsWord next) then l.explicitKey
  else if x = ':' ∧ (l.inFlow ∨ endsWord next) then l.value
  else if x = '*' then l.keyPart fun c => (readName c).map fun (name, c) => (.reference name, c)
  else if x = '&' then l.keyPart fun c => (readName c).map fun (name, c) => (.anchor name, c)
  else if x = '!' then l.keyPart readTag
  else if x = '|' ∧ !l.inFlow then l.block false
  else if x = '>' ∧ !l.inFlow then l.block true
  else if x = '\'' ∨ x = '"' then
    l.keyPart fun c => (quotedText c).map fun (text, c) => (.scalar text false, c)
  else if beginsPlain l.inFlow x next then l.plain
  else .error .strayCharacter

/-- Goes to the next token, and closes the blocks that end before it. -/
def settle (l : Lexer) : Except Fault Lexer := do
  let l ← (l.skipToToken (l.cursor.left + 1)).refreshKeys
  return l.unwind l.cursor.column

/-- Closes everything at the end of the text. -/
def finish (l : Lexer) : Except Fault Lexer :=
  (l.unwind (-1)).dropKey

/-- The places where a key may have begun, unless the next token is the first that may be one. -/
def pendingKeys (l : Lexer) : List PendingKey :=
  (if l.keyMayBegin then l.outerKeys else l.key :: l.outerKeys).filterMap id

/-- How many tokens are certain at a token that cannot be read: behind a place where a key may have
begun nothing is. -/
def certain (l : Lexer) : Nat :=
  l.pendingKeys.foldl (fun n key => min n key.number) l.count

/-- What has been read, up to a fault if there is one. -/
def stop (l : Lexer) (fault : Option Fault) : TokenStream :=
  ⟨l.tokens.reverse, fault⟩

/-- What is certain at a token that cannot be read. -/
def abandon (l : Lexer) (fault : Fault) : TokenStream :=
  ⟨l.tokens.reverse.take l.certain, some fault⟩

/-- Reads all tokens. -/
def readAll (l : Lexer) : (fuel : Nat) → TokenStream
  | 0 => l.stop (some .strayCharacter)
  | fuel + 1 =>
    match l.settle with
    | .error fault => l.stop (some fault)
    | .ok l =>
      if l.cursor.atEnd then
        match l.finish with
        | .error fault => l.stop (some fault)
        | .ok l => l.stop none
      else
        match l.readToken with
        | .error fault => l.abandon fault
        | .ok l => l.readAll fuel

end Lexer

/-- The tokens of a text. -/
def tokens (text : List Char) : TokenStream :=
  Lexer.readAll { cursor := { rest := text } } (text.length + 1)

end SourceAudit.Document.Yaml
