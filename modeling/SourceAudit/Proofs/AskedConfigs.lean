-- Configurations that are asked for, and those that are found at the default place. A file
-- configures a run the same in both ways, unless it holds nothing: then the default configuration
-- stands for the one, and the other is taken for missing.

import SourceAudit.Proofs.FaultyFiles
import SourceAudit.Proofs.VacantDocuments

namespace SourceAudit

open SourceAudit.Document
open SourceAudit.Files (Path PathFault Workspace)

namespace Config

variable {workspace other : Workspace} {path : Path} {asked : Option Path} {bytes : List UInt8}
  {document : Value}

/-! ## Reading at a place -/

/-- What stands for a configuration where nothing is found. -/
def ofNothing : Option Path → Except ConfigFault Config
  | some path => .error (.nothing path)
  | none => .ok {}

theorem ofFile_of_null (h : Document.ofFile workspace (asked.getD defaultPath) = .ok .null) :
    ofFile workspace asked = ofNothing asked := by
  unfold ofFile
  dsimp only
  rw [h]
  cases asked <;> rfl

theorem ofFile_of_absent {fault : PathFault} (hlong : fault ≠ .tooLong) (hdenied : fault ≠ .denied)
    (h : workspace.find (asked.getD defaultPath) = .error fault) :
    ofFile workspace asked = ofNothing asked := by
  apply ofFile_of_null
  rw [Document.ofFile, h]
  cases fault with
  | tooLong => exact absurd rfl hlong
  | denied => exact absurd rfl hdenied
  | missing | notDirectory | containsZero => rfl

/-- Any other document is read alike at all places. -/
theorem ofFile_of_document (h : workspace.find (asked.getD defaultPath) = .ok (.file bytes))
    (hbytes : Document.ofBytes bytes = .ok document) (hdocument : document ≠ .null) :
    ofFile workspace asked = ofDocument document := by
  unfold ofFile
  dsimp only
  rw [Document.ofFile_eq h, hbytes]
  split
  · next heq => cases heq
  · next heq => cases heq
  · next heq => exact absurd (Except.ok.inj heq) hdocument
  · next heq => rw [Except.ok.inj heq]

/-- Only a value that cannot be written breaks the reading of a document with texts as keys off. -/
theorem brokenBy_of_textKeys {cause : Breakdown}
    (hkeys : ∀ entry ∈ document.entries, entry.1.text? ≠ none)
    (h : ofDocument document = .error (.broken cause)) :
    BrokenBy (wordings document) cause ∨
      cause = .nestedTooDeep ∧ BrokenBy [document.under "fail_on"] cause := by
  rcases broken_of_ofDocument h with ⟨-, entry, hentry, hkey⟩ | hbroken
  · exact absurd hkey (hkeys entry hentry)
  · exact hbroken

end Config

/-! ## Runs -/

namespace Command

variable {workspace : Workspace} {settings : Settings} {path : String}

/-- What a run does depends on where its configuration is by what is read there alone. -/
theorem runSettings_of_ofFile_eq
    (h : Config.ofFile workspace (some (.ofString path)) = Config.ofFile workspace none) :
    runSettings workspace { settings with config := some (.text path) } =
      runSettings workspace { settings with config := none } := by
  have hconfig : configOf workspace { settings with config := some (.text path) } =
      configOf workspace { settings with config := none } := by
    change (Config.ofFile workspace (some (.ofString path)) >>= _) =
      (Config.ofFile workspace none >>= _)
    rw [h]
  unfold runSettings
  rw [hconfig]
  rfl

/-- A run that asks for a file with the bytes of the default one is the run that asks for none, or
is refused for want of the file. -/
theorem runSettings_of_same_bytes {bytes : List UInt8} {document : Value}
    (hasked : workspace.find (.ofString path) = .ok (.file bytes))
    (hdefault : workspace.find Config.defaultPath = .ok (.file bytes))
    (hbytes : Document.ofBytes bytes = .ok document) :
    (document ≠ .null → runSettings workspace { settings with config := some (.text path) } =
      runSettings workspace { settings with config := none }) ∧
    (document = .null → (runSettings workspace { settings with config := some (.text path) }).2 =
      .refused ("Config file not found: " ++ (Path.ofString path).toString)) := by
  constructor
  · intro hdocument
    apply runSettings_of_ofFile_eq
    exact (Config.ofFile_of_document hasked hbytes hdocument).trans
      (Config.ofFile_of_document hdefault hbytes hdocument).symm
  · rintro rfl
    have hnothing : Config.ofFile workspace (some (.ofString path)) =
        .error (.nothing (.ofString path)) :=
      Config.ofFile_of_null ((Document.ofFile_eq hasked).trans hbytes)
    have hconfig : configOf workspace { settings with config := some (.text path) } =
        .error (.nothing (.ofString path)) := configOf_of_ofFile rfl hnothing
    exact runSettings_of_config hconfig

end Command

/-! ## The law -/

/-- The same file configures alike where it is asked for and at the default place, if and only if
the document in it is not null. A null document, such as a text of comments alone, gives the default
configuration at the default place, and is taken for a missing file elsewhere; just so where there
is no file at all. -/
theorem a_file_configures_alike_at_both_places_unless_it_holds_nothing
    (workspace other : Workspace) (path : Path) :
    (∀ bytes document, workspace.find path = .ok (.file bytes) →
      other.find Config.defaultPath = .ok (.file bytes) → Document.ofBytes bytes = .ok document →
      (Config.ofFile workspace (some path) = Config.ofFile other none ↔ document ≠ .null) ∧
      (document = .null → Config.ofFile workspace (some path) = .error (.nothing path) ∧
        Config.ofFile other none = .ok {}) ∧
      ((∀ entry ∈ document.entries, entry.1.text? ≠ none) → ∀ cause,
        Config.ofFile workspace (some path) = .error (.broken cause) →
          BrokenBy (Config.wordings document) cause ∨
            cause = .nestedTooDeep ∧ BrokenBy [document.under "fail_on"] cause)) ∧
    (∀ text : String, Yaml.IsVacantText text.toList →
      Document.ofBytes (Text.utf8 text.toList) = .ok .null) ∧
    (∀ fault, workspace.find path = .error fault → fault ≠ .tooLong → fault ≠ .denied →
      Config.ofFile workspace (some path) = .error (.nothing path)) ∧
    ∀ fault, other.find Config.defaultPath = .error fault → fault ≠ .tooLong → fault ≠ .denied →
      Config.ofFile other none = .ok {} := by
  refine ⟨fun bytes document hasked hdefault hbytes => ?_, fun _ => Document.ofBytes_eq_null,
    fun _ h hlong hdenied => Config.ofFile_of_absent hlong hdenied h,
    fun _ h hlong hdenied => Config.ofFile_of_absent hlong hdenied h⟩
  by_cases hdocument : document = .null
  · subst hdocument
    have hnothing : Config.ofFile workspace (some path) = .error (.nothing path) :=
      Config.ofFile_of_null ((Document.ofFile_eq hasked).trans hbytes)
    have hempty : Config.ofFile other none = .ok {} :=
      Config.ofFile_of_null ((Document.ofFile_eq hdefault).trans hbytes)
    rw [hnothing, hempty]
    exact ⟨by simp, fun _ => ⟨rfl, rfl⟩, nofun⟩
  · have hread : Config.ofFile workspace (some path) = Config.ofDocument document :=
      Config.ofFile_of_document hasked hbytes hdocument
    have hread' : Config.ofFile other none = Config.ofDocument document :=
      Config.ofFile_of_document hdefault hbytes hdocument
    rw [hread, hread']
    exact ⟨by simp [hdocument], fun h => absurd h hdocument,
      fun hkeys _ => Config.brokenBy_of_textKeys hkeys⟩

/-- A directory with the same bytes in a file and at the default place of a configuration. -/
def Command.twoPlaces (bytes : List UInt8) : Workspace where
  tree := .directory {} [("c.yaml", .file bytes), (".vulnscan.yaml", .file bytes)]
  here := []

/-- A file with a comment alone is there at both places, and at one of them is not found. -/
theorem a_comment_is_a_configuration_at_the_default_place_alone :
    let bytes := Text.utf8 "# fail_on: high\n".toList
    let workspace := Command.twoPlaces bytes
    workspace.find (.ofString "c.yaml") = .ok (.file bytes) ∧
      workspace.find Config.defaultPath = .ok (.file bytes) ∧
      Document.ofBytes bytes = .ok .null ∧
      Config.ofFile workspace (some (.ofString "c.yaml")) = .error (.nothing (.ofString "c.yaml")) ∧
      Config.ofFile workspace none = .ok {} ∧
      Config.ofFile workspace (some (.ofString "c.yaml")) ≠ Config.ofFile workspace none := by
  intro bytes workspace
  have hbytes : Document.ofBytes bytes = .ok .null :=
    Document.ofBytes_eq_null ⟨by decide, by decide⟩
  have hasked : workspace.find (.ofString "c.yaml") = .ok (.file bytes) := rfl
  have hdefault : workspace.find Config.defaultPath = .ok (.file bytes) := rfl
  have hnothing : Config.ofFile workspace (some (.ofString "c.yaml")) =
      .error (.nothing (.ofString "c.yaml")) :=
    Config.ofFile_of_null ((Document.ofFile_eq hasked).trans hbytes)
  have hempty : Config.ofFile workspace none = .ok {} :=
    Config.ofFile_of_null ((Document.ofFile_eq hdefault).trans hbytes)
  refine ⟨hasked, hdefault, hbytes, hnothing, hempty, ?_⟩
  rw [hnothing, hempty]
  nofun

end SourceAudit
