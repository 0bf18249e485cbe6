-- Files that should hold a configuration or a catalog. Whatever their bytes are, the file gives a
-- sound configuration or a catalog, or it is refused, and a run that needs it ends with a complaint
-- and the number two. What breaks the reading off is told apart: bytes from which no document is
-- read, keys that are no texts, values that cannot be written, and patterns.

import SourceAudit.Proofs.AcceptedDocuments
import SourceAudit.Proofs.CompletedRuns
import SourceAudit.Proofs.SoundConfigs

namespace SourceAudit

open SourceAudit.Document
open SourceAudit.Files (Path Workspace)

section Reading

variable {workspace : Workspace} {path : Path} {asked : Option Path}
  {bytes : List UInt8} {cause : Breakdown}

/-! ## What breaks a reading off -/

/-- The bytes break the reading of a configuration off: no document is read from them, or a key is
no text, or a value that is put into words cannot be written. A severity counts only where it lies
too deep. -/
def Config.BreaksOff (bytes : List UInt8) (cause : Breakdown) : Prop :=
  Document.ofBytes bytes = .error (.broken cause) ∨
    ∃ document, Document.ofBytes bytes = .ok document ∧
      ((cause = .keyNotText ∧ ∃ entry ∈ document.entries, entry.1.text? = none) ∨
        (∃ value ∈ wordings document, value.Breaks cause) ∨
        cause = .nestedTooDeep ∧ (document.under "fail_on").Breaks cause)

/-- The bytes break the reading of a catalog off: no document is read from them, or a value that is
put into words cannot be written, or a pattern gives up. -/
def Catalog.BreaksOff (bytes : List UInt8) (cause : Breakdown) : Prop :=
  Document.ofBytes bytes = .error (.broken cause) ∨
    ∃ document, Document.ofBytes bytes = .ok document ∧
      ((∃ value ∈ wordings document, value.Breaks cause) ∨
        ∃ item ∈ (document.under "rules").items, BrokenByPattern item cause)

/-- A file is read by its bytes alone. -/
theorem Document.ofFile_eq (h : workspace.find path = .ok (.file bytes)) :
    Document.ofFile workspace path = Document.ofBytes bytes := by
  rw [Document.ofFile, h]

/-! ## Configurations -/

namespace Config

/-- What a run is configured to do without any file. -/
theorem isSound_default : ({} : Config).IsSound where
  size := by decide
  rules _ hid := absurd hid List.not_mem_nil
  extensions _ hall := absurd hall (by simp)

theorem isSound_of_ofFile {config : Config}
    (h : workspace.find (asked.getD defaultPath) = .ok (.file bytes))
    (hread : ofFile workspace asked = .ok config) : config.IsSound := by
  unfold ofFile at hread
  dsimp only at hread
  rw [Document.ofFile_eq h] at hread
  split at hread
  · cases hread
  · cases hread
  · split at hread
    · cases hread
    · cases hread
      exact isSound_default
  · exact isSound_of_ofDocument hread

theorem breaksOff_of_ofFile (h : workspace.find (asked.getD defaultPath) = .ok (.file bytes))
    (hread : ofFile workspace asked = .error (.broken cause)) : BreaksOff bytes cause := by
  unfold ofFile at hread
  dsimp only at hread
  rw [Document.ofFile_eq h] at hread
  split at hread
  · next hbytes =>
    cases hread
    exact .inl hbytes
  · cases hread
  · split at hread <;> cases hread
  · next document _ hbytes =>
    refine .inr ⟨document, hbytes, ?_⟩
    rcases broken_of_ofDocument hread with hkey | hbroken | ⟨hcause, hbroken⟩
    · exact .inl hkey
    · exact .inr (.inl hbroken.exists_breaks)
    · obtain ⟨value, hvalue, hbreaks⟩ := hbroken.exists_breaks
      obtain rfl := List.mem_singleton.1 hvalue
      exact .inr (.inr ⟨hcause, hbreaks⟩)

theorem ofFile_of_broken (h : workspace.find (asked.getD defaultPath) = .ok (.file bytes))
    (hbytes : Document.ofBytes bytes = .error (.broken cause)) :
    ofFile workspace asked = .error (.broken cause) := by
  unfold ofFile
  dsimp only
  rw [Document.ofFile_eq h, hbytes]

theorem ofFile_of_keyNotText {document : Value}
    (h : workspace.find (asked.getD defaultPath) = .ok (.file bytes))
    (hbytes : Document.ofBytes bytes = .ok document)
    (hkey : ∃ entry ∈ document.entries, entry.1.text? = none) :
    ofFile workspace asked = .error (.broken .keyNotText) := by
  have hread := broken_of_keyNotText hkey
  unfold ofFile
  dsimp only
  rw [Document.ofFile_eq h, hbytes]
  split
  · next heq => cases heq
  · next heq => cases heq
  · next heq =>
    cases heq
    cases hread
  · next heq =>
    cases heq
    exact hread

end Config

/-! ## Catalogs -/

namespace Catalog

theorem breaksOff_of_ofFile (h : workspace.find path = .ok (.file bytes))
    (hread : ofFile workspace path = .error (.broken cause)) : BreaksOff bytes cause := by
  unfold ofFile at hread
  rw [Document.ofFile_eq h] at hread
  split at hread
  · next hbytes =>
    cases hread
    exact .inl hbytes
  · cases hread
  · cases hread
  · next document _ hbytes =>
    obtain ⟨fault, hfault, hcontent⟩ := mapError_eq_error.1 hread
    cases fault with
    | broken other =>
      cases hcontent
      exact .inr ⟨document, hbytes,
        (brokenBy_of_ofDocument hfault).imp_left BrokenBy.exists_breaks⟩
    | _ => cases hcontent

theorem ofFile_of_broken (h : workspace.find path = .ok (.file bytes))
    (hbytes : Document.ofBytes bytes = .error (.broken cause)) :
    ofFile workspace path = .error (.broken cause) := by
  unfold ofFile
  rw [Document.ofFile_eq h, hbytes]

end Catalog

end Reading

/-! ## Runs -/

namespace Command

variable {workspace : Workspace} {settings : Settings}

theorem runSettings_of_config {fault : ConfigFault}
    (h : configOf workspace settings = .error fault) :
    (runSettings workspace settings).2 = .ofConfigFault fault := by
  unfold runSettings
  rw [h]

theorem configOf_of_ofFile {asked : Option Path} {fault : ConfigFault}
    (hasked : settings.config.mapM pathOf = .ok asked)
    (h : Config.ofFile workspace asked = .error fault) :
    configOf workspace settings = .error fault := by
  unfold configOf
  rw [hasked]
  exact bind_eq_error.2 (.inr ⟨asked, rfl, bind_eq_error.2 (.inl h)⟩)

theorem runSettings_of_rules {config : Config} {name : String} {fault : CatalogFileFault}
    (hconfig : configOf workspace settings = .ok config)
    (hname : config.rulesPath = some (.ofString name))
    (h : Catalog.ofFile workspace (.ofString name) = .error fault) :
    (runSettings workspace settings).2 = .ofSelectionFault (.file fault) := by
  have hfull : config.fullCatalog workspace = .error (.file fault) := by
    unfold Config.fullCatalog Catalog.ofNamedFile
    rw [hname]
    dsimp only
    rw [WideText.text?_ofString]
    exact mapError_eq_error.2 ⟨fault, h, rfl⟩
  unfold runSettings
  rw [hconfig]
  dsimp only
  rw [hfull]

theorem ofConfigFault_of_ne_broken {fault : ConfigFault} (h : ∀ cause, fault ≠ .broken cause) :
    Ending.ofConfigFault fault = .refused fault.message := by
  cases fault with
  | broken cause => exact absurd rfl (h cause)
  | _ => rfl

theorem ofSelectionFault_of_ne_broken {fault : CatalogFileFault}
    (h : ∀ cause, fault ≠ .broken cause) :
    Ending.ofSelectionFault (.file fault) = .refused fault.message := by
  cases fault with
  | broken cause => exact absurd rfl (h cause)
  | _ => rfl

/-- A directory with an empty file, and one whose only byte begins no character. -/
def twoFiles : Workspace where
  tree := .directory {} [("empty.yaml", .file []), ("byte.yaml", .file [255])]
  here := []

end Command

end SourceAudit
