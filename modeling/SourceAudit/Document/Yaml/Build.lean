-- The value of a document. An alias stands for the value of its node; where a node lies inside of
-- itself, its value is a loop.

import SourceAudit.Document.Yaml.FirstFault

namespace SourceAudit.Document.Yaml

namespace Graph

/-- What is at work while values are made: the values of names that contain no loops. -/
abbrev Building := StateT (List (String × Value)) (Except Fault)

/-- Gives up. -/
def giveUp (fault : Fault) : Building α :=
  fun _ => .error fault

/-- A value that comes back to a loop, or not. -/
structure Built where
  value : Value
  comesBack : Bool

/-- A compound value with its place. It is a loop if it comes back to one. -/
def Built.compound (place : Nat) (parts : List Built) (value : Value) : Built :=
  let comesBack := parts.any (·.comesBack)
  ⟨if comesBack then .loop place value else value, comesBack⟩

/-- Entries as a value of a mapping, in which the last one of a key wins. -/
def putEntries (entries : List (Built × Built)) : List (Value × Value) :=
  entries.foldl (fun done (key, value) => Value.insert key.value value.value done) []

/-- The value of a node inside of the compound nodes at some places. -/
def build (graph : Graph) : (fuel : Nat) → (within : List Nat) → Node → Building Built
  | 0, _, _ => giveUp (.broken .nestedTooDeep)
  | fuel + 1, within, node => do
    let both (place : Nat) (entry : Node × Node) (keyFits : Value → Bool) :
        Building (Built × Built) := do
      let key ← graph.build fuel (place :: within) entry.1
      if !keyFits key.value then giveUp .compoundKey
      return (key, ← graph.build fuel (place :: within) entry.2)
    let entriesAt (place : Nat) (entries : List (Node × Node)) :
        Building (List (Built × Built)) := do
      (← graph.entriesFrom fuel [] place entries).mapM fun entry => both place entry Value.isKey
    match node, graph.directValue? fuel node with
    | .reference name, direct =>
      if let some value := (← get).lookup name then return ⟨value, false⟩
      let built ← match direct with
        | some (.ok value) => pure ⟨value, false⟩
        | some (.error fault) => giveUp fault
        | none => graph.build fuel within (graph.resolve (.reference name))
      if !built.comesBack then modify ((name, built.value) :: ·)
      return built
    | _, some (.ok value) => return ⟨value, false⟩
    | _, some (.error fault) => giveUp fault
    | .sequence place tag items, none =>
      if within.contains place then return ⟨.back place .list, true⟩
      match tag with
      | .list =>
        let parts ← items.mapM (graph.build fuel (place :: within))
        return .compound place parts (.list (parts.map (·.value)))
      | .orderedMap | .pairs =>
        let parts ← items.mapM fun item => do
          match graph.resolve item with
          | .mapping inner _ [entry] =>
            let (key, value) ← both place entry fun _ => true
            return Built.compound inner [key, value] (.pair key.value value.value)
          | _ => giveUp .kindMismatch
        return .compound place parts (.list (parts.map (·.value)))
      | _ => giveUp .kindMismatch
    | .mapping place tag entries, none =>
      if within.contains place then return ⟨.back place .map, true⟩
      match tag with
      | .map =>
        let entries ← entriesAt place entries
        return .compound place (entries.map (·.2)) (.map (putEntries entries))
      | .set =>
        let entries ← entriesAt place entries
        return ⟨.set ((putEntries entries).map Prod.fst), false⟩
      | _ => giveUp .kindMismatch
    | _, none => giveUp .kindMismatch

/-- The value of a document. Of several faults the one that lies least deep counts. -/
def value (graph : Graph) (fuel : Nat) : Except Fault Value :=
  match (graph.build fuel [] graph.root).run [] with
  | .ok (built, _) => .ok built.value
  | .error fault => .error ((graph.fault? fuel).getD fault)

end Graph

end SourceAudit.Document.Yaml
