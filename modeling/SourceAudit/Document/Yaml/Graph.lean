-- Looking into a document: the nodes that aliases stand for, the entries that mappings take over
-- from others, and the values of nodes that do not wait for their parts.

import SourceAudit.Document.Yaml.Node
import SourceAudit.Document.Yaml.ScalarValue

namespace SourceAudit.Document.Yaml

namespace Node

/-- The tag of a node, where an alias has none. -/
def tag : Node → Tag
  | scalar tag _ | sequence _ tag _ | mapping _ tag _ => tag
  | reference name => .other name

/-- The place of a sequence or a mapping. -/
def place? : Node → Option Nat
  | sequence place _ _ | mapping place _ _ => some place
  | _ => none

/-- A key that stands for a default is a text like any other. -/
def plainKey : Node → Node
  | scalar .default text => .scalar .text text
  | node => node

end Node

namespace Graph

/-- The node that a node stands for. -/
def resolve (graph : Graph) : Node → Node
  | .reference name => (graph.anchors.lookup name).getD (.reference name)
  | node => node

/-- The tag of the node that a node stands for. -/
def tagOf (graph : Graph) (node : Node) : Tag :=
  (graph.resolve node).tag

/-- A key has entries taken over. -/
def isMergeKey (graph : Graph) (key : Node) : Bool :=
  graph.tagOf key == .merge

/-! ## Entries that are taken over -/

/-- The entries of a mapping that are its own. -/
def ownEntries (graph : Graph) (entries : List (Node × Node)) : List (Node × Node) :=
  (entries.filter fun (key, _) => !graph.isMergeKey key).map fun (key, value) =>
    ((graph.resolve key).plainKey, value)

/-- The entries of the mapping at a place: those that it takes over, and then its own. Of several
mappings that it takes over at once the first one comes last, so that it wins. A mapping among
`within`, whose entries are being looked for, gives its own ones only, and one that takes over
itself gains nothing. -/
def entriesFrom (graph : Graph) :
    (fuel : Nat) → (within : List Nat) → (place : Nat) → List (Node × Node) →
    Except Fault (List (Node × Node))
  | 0, _, _, _ => .error (.broken .nestedTooDeep)
  | fuel + 1, within, place, entries =>
    if within.contains place then .ok (graph.ownEntries entries)
    else do
      let takeOver : Node → Except Fault (List (Node × Node))
        | .mapping other _ entries => graph.entriesFrom fuel (place :: within) other entries
        | _ => .error .badMerge
      let taken ← (entries.filter fun (key, _) => graph.isMergeKey key).mapM fun (_, value) =>
        match graph.resolve value with
        | .sequence _ _ items => do
          let parts ← items.mapM fun item => takeOver (graph.resolve item)
          return parts.reverse.flatten
        | value => if value.place? = some place then .ok [] else takeOver value
      return taken.flatten ++ graph.ownEntries entries

/-! ## Values that do not wait for their parts -/

/-- The scalar that a node stands for, which is the default of a mapping. -/
def scalarOf (graph : Graph) : (fuel : Nat) → Node → Except Fault Node
  | 0, _ => .error (.broken .nestedTooDeep)
  | fuel + 1, node =>
    match graph.resolve node with
    | .mapping _ _ entries =>
      match entries.find? fun (key, _) => graph.tagOf key == .default with
      | some (_, value) => graph.scalarOf fuel value
      | none => .error .kindMismatch
    | .sequence _ _ _ => .error .kindMismatch
    | node => .ok node

/-- The value of a mapping whose tag promises a scalar. -/
def valueOfDefault (graph : Graph) (fuel : Nat) (tag : Tag) (mapping : Node) :
    Except Fault Value := do
  match ← graph.scalarOf fuel mapping, tag with
  | _, .moment => throw (.broken .momentInMapping)
  | .scalar _ text, tag => scalarValue tag text
  | _, _ => throw .kindMismatch

/-- The tag is of a kind that stands for something. -/
def isKnown : Tag → Bool
  | .merge | .default | .other _ => false
  | _ => true

/-- The value of a node, unless it is compound. -/
def directValue? (graph : Graph) (fuel : Nat) (node : Node) : Option (Except Fault Value) :=
  match graph.resolve node with
  | .reference _ => some (.error .unknownAlias)
  | node =>
    if node.tag.isCompound then none
    else if !isKnown node.tag then some (.error .kindMismatch)
    else match node with
      | .scalar tag text => some (scalarValue tag text)
      | node => some (graph.valueOfDefault fuel node.tag node)

end Graph

end SourceAudit.Document.Yaml
