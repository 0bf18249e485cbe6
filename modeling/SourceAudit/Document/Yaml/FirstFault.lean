-- The first fault of a document whose layout is right. A compound value is made before its parts
-- are, so the faults are met level by level, and not in the order of the text.

import SourceAudit.Document.Yaml.Graph

namespace SourceAudit.Document.Yaml

namespace Graph

/-- The nodes that the parts of a compound node consist of, in order, and the faults between
them. -/
def parts (graph : Graph) (fuel : Nat) (node : Node) : List (Except Fault Node) :=
  match graph.resolve node with
  | .sequence _ .list items => items.map .ok
  | .sequence _ .orderedMap items | .sequence _ .pairs items =>
    items.flatMap fun item =>
      match graph.resolve item with
      | .mapping _ _ [(key, value)] => [.ok key, .ok value]
      | _ => [.error .kindMismatch]
  | .mapping place .map entries | .mapping place .set entries =>
    match graph.entriesFrom fuel [] place entries with
    | .error fault => [.error fault]
    | .ok entries =>
      entries.flatMap fun (key, value) =>
        if (graph.tagOf key).isCompound then [.ok key, .error .compoundKey, .ok value]
        else [.ok key, .ok value]
  | _ => [.error .kindMismatch]

/-- Goes through parts up to the first fault, and gives the compound ones. -/
def compoundParts (graph : Graph) (fuel : Nat) :
    List (Except Fault Node) → Except Fault (List Node)
  | [] => .ok []
  | .error fault :: _ => .error fault
  | .ok node :: rest =>
    match graph.directValue? fuel node with
    | some (.error fault) => .error fault
    | some (.ok _) => graph.compoundParts fuel rest
    | none => (graph.compoundParts fuel rest).map (graph.resolve node :: ·)

/-- The nodes whose places have not been seen, each once. -/
def fresh (seen : List Nat) : List Node → List Node
  | [] => []
  | node :: rest =>
    match node.place? with
    | none => node :: fresh seen rest
    | some place =>
      if seen.contains place then fresh seen rest else node :: fresh (place :: seen) rest

/-- The first fault of some nodes and of what lies below them, level by level. -/
def faultFrom (graph : Graph) (fuel : Nat) :
    (levels : Nat) → (seen : List Nat) → List Node → Option Fault
  | 0, _, _ => none
  | levels + 1, seen, nodes =>
    match graph.compoundParts fuel (nodes.flatMap (graph.parts fuel)) with
    | .error fault => some fault
    | .ok found =>
      match fresh seen found with
      | [] => none
      | next => graph.faultFrom fuel levels (next.filterMap Node.place? ++ seen) next

/-- The first fault of a document. -/
def fault? (graph : Graph) (fuel : Nat) : Option Fault :=
  match graph.compoundParts fuel [.ok graph.root] with
  | .error fault => some fault
  | .ok nodes => graph.faultFrom fuel fuel (nodes.filterMap Node.place?) nodes

end Graph

end SourceAudit.Document.Yaml
