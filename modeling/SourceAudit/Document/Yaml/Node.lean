-- The structure of a document: scalars, sequences and mappings, each with a tag that tells what
-- kind of value it stands for. Nodes are read from tokens by the grammar of the language. A
-- token takes at most four calls, so four times as many steps as tokens are enough.

import SourceAudit.Document.Yaml.Token
import SourceAudit.Document.Yaml.PlainScalar

namespace SourceAudit.Document.Yaml

/-- A part of a document. A sequence or a mapping has the number of the tokens before it, which
no other one has; an alias is the name of a node. -/
inductive Node where
  | scalar (tag : Tag) (text : WideText)
  | sequence (place : Nat) (tag : Tag) (items : List Node)
  | mapping (place : Nat) (tag : Tag) (entries : List (Node × Node))
  | reference (name : String)

/-- A document: its outermost node, and the nodes that names stand for. -/
structure Graph where
  root : Node
  anchors : List (String × Node) := []

/-! ## The state of the reader -/

/-- What is left to read, and the fault behind it; the handles of tags; how many tokens have been
read and how many sequences and mappings are open; the names that have been given, and the nodes
that they stand for once these have been read. -/
structure NodeReader where
  stream : TokenStream
  handles : List (String × String)
  passed : Nat := 0
  depth : Nat := 0
  names : List String := []
  anchors : List (String × Node) := []

/-- A step that reads something. -/
abbrev Reading := StateT NodeReader (Except Fault)

/-- How many sequences and mappings may lie inside each other. -/
def depthLimit : Nat := 486

namespace Reading

/-- Gives up. -/
def fail (fault : Fault) : Reading α :=
  fun _ => .error fault

/-- The next token. Behind the last one stands the fault of the text, if there is one. -/
def peek : Reading (Option Token) :=
  fun r =>
    match r.stream.tokens, r.stream.fault with
    | token :: _, _ => .ok (some token, r)
    | [], some fault => .error fault
    | [], none => .ok (none, r)

/-- Goes past the next token. -/
def advance : Reading Unit :=
  fun r =>
    .ok ((), { r with
      stream := { r.stream with tokens := r.stream.tokens.tail }
      passed := r.passed + 1 })

/-- The number of tokens that have been read. -/
def place : Reading Nat :=
  fun r => .ok (r.passed, r)

/-- The next token is one of some. -/
def isNext (tokens : List Token) : Reading Bool := do
  match ← peek with
  | some token => return tokens.contains token
  | none => return false

/-- Goes past a token, which has to be there. -/
def expect (token : Token) (fault : Fault) : Reading Unit := do
  if ← isNext [token] then advance else fail fault

/-- Reads something that lies one level deeper. -/
def nested (read : Reading α) : Reading α :=
  fun r =>
    if depthLimit ≤ r.depth then .error (.broken .nestedTooDeep)
    else (read { r with depth := r.depth + 1 }).map fun (x, after) =>
      (x, { after with depth := r.depth })

/-- A name is given to a node that is still to be read. No name may stand for two. -/
def openAnchor (name : String) : Reading Unit :=
  fun r =>
    if r.names.contains name then .error .repeatedAnchor
    else .ok ((), { r with names := name :: r.names })

/-- A name stands for a node that has been read. -/
def closeAnchor (name : Option String) (node : Node) : Reading Node :=
  match name with
  | none => return node
  | some name => fun r => .ok (node, { r with anchors := (name, node) :: r.anchors })

/-- The node that a name stands for. -/
def anchored (name : String) : Reading Node :=
  fun r => if r.names.contains name then .ok (.reference name, r) else .error .unknownAlias

/-- A tag in full. -/
def expandTag (handle : Option String) (suffix : String) : Reading String :=
  fun r =>
    match handle with
    | none => .ok (suffix, r)
    | some handle =>
      match r.handles.lookup handle with
      | none => .error .unknownHandle
      | some expansion => .ok (expansion ++ suffix, r)

/-- Reads a tag, if there is one. -/
def tag? : Reading (Option String) := do
  match ← peek with
  | some (.tag handle suffix) =>
    advance
    return some (← expandTag handle suffix)
  | _ => return none

/-- Reads an anchor, if there is one. -/
def anchor? : Reading (Option String) := do
  match ← peek with
  | some (.anchor name) =>
    advance
    return some name
  | _ => return none

/-- Reads the properties in front of a node, an anchor and a tag in any order. -/
def properties : Reading (Option String × Option String) := do
  match ← anchor? with
  | some name => return (some name, ← tag?)
  | none =>
    let tag ← tag?
    if tag.isSome then return (← anchor?, tag) else return (none, none)

end Reading

/-! ## The grammar -/

/-- A node that nothing is written for. -/
def Node.absent : Node :=
  .scalar .null ""

open Reading

mutual

/-- Reads a node. Blocks may begin here if `block` holds, and entries that are no deeper than the
key in front of them if `indentless` does. -/
def readNode (block indentless : Bool) : (fuel : Nat) → Reading Node
  | 0 => fail (.broken .nestedTooDeep)
  | fuel + 1 => do
    match ← peek with
    | some (.reference name) =>
      advance
      anchored name
    | _ =>
      let (anchor, tag) ← properties
      let _ ← peek
      if let some name := anchor then openAnchor name
      let node ← readContent block indentless anchor.isSome tag fuel
      closeAnchor anchor node

/-- Reads a node behind its properties. -/
def readContent (block indentless named : Bool) (tag : Option String) :
    (fuel : Nat) → Reading Node
  | 0 => fail (.broken .nestedTooDeep)
  | fuel + 1 => do
    let place ← place
    match ← peek, block, indentless with
    | some .blockEntry, _, true =>
      return .sequence place (Tag.ofSequence tag) (← nested (readIndentless fuel))
    | some (.scalar text plain), _, _ =>
      advance
      return .scalar (Tag.ofScalar tag plain text) text
    | some .flowSequence, _, _ =>
      advance
      return .sequence place (Tag.ofSequence tag) (← nested (readFlowItems true fuel))
    | some .flowMapping, _, _ =>
      advance
      return .mapping place (Tag.ofMapping tag) (← nested (readFlowEntries true fuel))
    | some .blockSequence, true, _ =>
      advance
      return .sequence place (Tag.ofSequence tag) (← nested (readBlockItems fuel))
    | some .blockMapping, true, _ =>
      advance
      return .mapping place (Tag.ofMapping tag) (← nested (readBlockEntries fuel))
    | _, _, _ =>
      if named || tag.isSome then return .scalar (Tag.ofScalar tag true "") ""
      else fail .contentExpected

/-- Reads a node, unless one of some tokens stands in its place. -/
def readUnless (stops : List Token) (block indentless : Bool) : (fuel : Nat) → Reading Node
  | 0 => fail (.broken .nestedTooDeep)
  | fuel + 1 => do
    if ← isNext stops then return .absent else readNode block indentless fuel

/-- Reads the entries of a block sequence. -/
def readBlockItems : (fuel : Nat) → Reading (List Node)
  | 0 => fail (.broken .nestedTooDeep)
  | fuel + 1 => do
    if ← isNext [.blockEntry] then
      advance
      let item ← readUnless [.blockEntry, .blockEnd] true false fuel
      return item :: (← readBlockItems fuel)
    else
      expect .blockEnd .blockEndExpected
      return []

/-- Reads the entries of a sequence that is no deeper than the key in front of it. -/
def readIndentless : (fuel : Nat) → Reading (List Node)
  | 0 => fail (.broken .nestedTooDeep)
  | fuel + 1 => do
    if ← isNext [.blockEntry] then
      advance
      let item ← readUnless [.blockEntry, .key, .value, .blockEnd] true false fuel
      return item :: (← readIndentless fuel)
    else return []

/-- Reads the entries of a block mapping. -/
def readBlockEntries : (fuel : Nat) → Reading (List (Node × Node))
  | 0 => fail (.broken .nestedTooDeep)
  | fuel + 1 => do
    if ← isNext [.key] then
      let key ← readPart .key [.key, .value, .blockEnd] true fuel
      let value ← readPart .value [.key, .value, .blockEnd] true fuel
      return (key, value) :: (← readBlockEntries fuel)
    else
      expect .blockEnd .blockEndExpected
      return []

/-- Reads a key or a value behind the token that begins it. Without that token it is absent. -/
def readPart (first : Token) (stops : List Token) (block : Bool) : (fuel : Nat) → Reading Node
  | 0 => fail (.broken .nestedTooDeep)
  | fuel + 1 => do
    if ← isNext [first] then
      advance
      readUnless stops block block fuel
    else return .absent

/-- Reads the items of a sequence in brackets. A key makes its item a mapping. -/
def readFlowItems (isFirst : Bool) : (fuel : Nat) → Reading (List Node)
  | 0 => fail (.broken .nestedTooDeep)
  | fuel + 1 => do
    if !isFirst ∧ !(← isNext [.flowSequenceEnd]) then expect .flowEntry .separatorExpected
    if ← isNext [.flowSequenceEnd] then
      advance
      return []
    else
      let item ←
        if ← isNext [.key] then do
          let place ← place
          let entry ← nested do
            let key ← readPart .key [.value, .flowEntry, .flowSequenceEnd] false fuel
            let value ← readPart .value [.flowEntry, .flowSequenceEnd] false fuel
            pure (key, value)
          pure (Node.mapping place .map [entry])
        else readNode false false fuel
      return item :: (← readFlowItems false fuel)

/-- Reads the entries of a mapping in braces. -/
def readFlowEntries (isFirst : Bool) : (fuel : Nat) → Reading (List (Node × Node))
  | 0 => fail (.broken .nestedTooDeep)
  | fuel + 1 => do
    if !isFirst ∧ !(← isNext [.flowMappingEnd]) then expect .flowEntry .separatorExpected
    if ← isNext [.flowMappingEnd] then
      advance
      return []
    else
      let entry ←
        if ← isNext [.key] then do
          let key ← readPart .key [.value, .flowEntry, .flowMappingEnd] false fuel
          let value ← readPart .value [.flowEntry, .flowMappingEnd] false fuel
          pure (key, value)
        else pure (← readNode false false fuel, Node.absent)
      return entry :: (← readFlowEntries false fuel)

end

/-! ## Documents -/

/-- The handles that need no directive. -/
def standardHandles : List (String × String) :=
  [("!", "!"), ("!!", "tag:yaml.org,2002:")]

/-- Reads directives, and gives the handles that they define. -/
def readDirectives (versioned : Bool) (handles : List (String × String)) :
    List Token → Except Fault (List (String × String) × List Token)
  | .directive (.version major) :: rest =>
    if versioned then .error .repeatedDirective
    else if major ≠ 1 then .error .unsupportedVersion
    else readDirectives true handles rest
  | .directive (.handle name expansion) :: rest =>
    if (handles.lookup name).isSome then .error .repeatedDirective
    else readDirectives versioned ((name, expansion) :: handles) rest
  | .directive .other :: rest => readDirectives versioned handles rest
  | rest => .ok (handles, rest)

/-- Reads the content of a document, and gives what follows. -/
def readDocument (handles : List (String × String)) (stream : TokenStream) :
    Except Fault (Graph × TokenStream) :=
  match readNode true false (4 * stream.tokens.length + 4) { stream, handles } with
  | .ok (root, reader) => .ok (⟨root, reader.anchors⟩, reader.stream)
  | .error fault => .error fault

/-- Reads the document at the beginning of some tokens, if there is one, and gives what follows.
Directives need a mark behind them, and with a mark a document may be empty. -/
def firstDocument (stream : TokenStream) : Except Fault (Option Graph × TokenStream) :=
  match stream.tokens with
  | [] => .ok (none, stream)
  | .directive _ :: _ | .documentStart :: _ => do
    match ← readDirectives false [] stream.tokens with
    | (handles, .documentStart :: rest) =>
      match rest with
      | [] | .directive _ :: _ | .documentStart :: _ | .documentEnd :: _ =>
        return (some ⟨.absent, []⟩, { stream with tokens := rest })
      | _ =>
        let (graph, stream) ←
          readDocument (handles ++ standardHandles) { stream with tokens := rest }
        return (some graph, stream)
    | (_, []) => throw (stream.fault.getD .documentStartExpected)
    | _ => throw .documentStartExpected
  | _ => do
    let (graph, stream) ← readDocument standardHandles stream
    return (some graph, stream)

/-- The only document of some tokens, if there is one. -/
def document (stream : TokenStream) : Except Fault (Option Graph) := do
  let (graph, stream) ← firstDocument stream
  match stream.tokens.dropWhile (· == .documentEnd), stream.fault with
  | [], none => return graph
  | [], some fault => throw fault
  | _, _ => throw .severalDocuments

end SourceAudit.Document.Yaml
