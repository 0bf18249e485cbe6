-- What becomes of the files of a run. A file is scanned when it can be read, is within the limit
-- and is valid text; every other one is skipped and leaves nothing behind. A strict run ends at the
-- first file within the limit that is not valid text. Besides, any run ends at a file where a rule
-- hits whose identifier has surrogates, and where the search for files stops: at a path that is too
-- long, behind a way that is closed, or too deep down.

import SourceAudit.Proofs.FailedAggregation
import SourceAudit.Proofs.Reported
import SourceAudit.Proofs.TakenFiles
import SourceAudit.Survey

namespace SourceAudit

open SourceAudit.Files (Harvest IsWanted Path ReadFault Tree Workspace)
open SourceAudit.Files.Tree (Sight)

namespace Catalog

variable {catalog : Catalog} {language : Language} {text : String}

/-! ## What a scan fails for -/

/-- Matches are made of hits of rules for the language on lines that are there. -/
theorem mem_matchesInLines_iff {lines : List String} {raw : RawMatch} :
    raw ∈ catalog.matchesInLines language lines ↔
      ∃ site : Site, raw = site.raw ∧ site.rule ∈ catalog.rulesFor language ∧
        site.hit ∈ site.rule.hitsIn site.line ∧
          ∃ i, lines[i]? = some site.line ∧ site.number = 1 + i := by
  rw [matchesInLines_eq, List.mem_map]
  constructor
  · rintro ⟨site, hsite, rfl⟩
    obtain ⟨rule, hrule, hsite⟩ := List.mem_flatMap.1 hsite
    obtain ⟨rfl, hhit, hline⟩ := Site.mem_ofRule.1 hsite
    exact ⟨site, rfl, hrule, hhit, hline⟩
  · rintro ⟨site, rfl, hrule, hhit, hline⟩
    exact ⟨site, List.mem_flatMap.2 ⟨_, hrule, Site.mem_ofRule.2 ⟨rfl, hhit, hline⟩⟩, rfl⟩

/-- Whatever is matched can be looked up: its rule is in the catalog, and its line is there. -/
theorem placed_of_mem_matchesInLines {lines : List String} {raw : RawMatch}
    (h : raw ∈ catalog.matchesInLines language lines) :
    raw.rule ∈ catalog.ids ∧ 1 ≤ raw.line ∧ raw.line ≤ lines.length := by
  obtain ⟨site, rfl, hrule, -, i, hline, hnumber⟩ := mem_matchesInLines_iff.1 h
  obtain ⟨hi, -⟩ := List.getElem?_eq_some_iff.1 hline
  refine ⟨List.mem_map_of_mem (List.mem_of_mem_filter hrule), ?_, ?_⟩ <;>
    simp only [Site.raw] <;> omega

theorem forall_mem_matchesInLines_iff :
    (∀ raw ∈ catalog.matchesInLines language (Text.lines text), ∃ id : String, raw.rule = id) ↔
      catalog.Nameable language text := by
  constructor
  · intro h rule hrule happlies line hline hhits
    obtain ⟨i, hi⟩ := List.mem_iff_getElem?.1 hline
    obtain ⟨hit, hhit⟩ := List.exists_mem_of_ne_nil _ hhits
    exact h _ (mem_matchesInLines_iff.2 ⟨⟨rule, 1 + i, line, hit⟩, rfl,
      List.mem_filter.2 ⟨hrule, happlies⟩, hhit, i, hi, rfl⟩)
  · intro h raw hraw
    obtain ⟨site, rfl, hrule, hhit, i, hline, -⟩ := mem_matchesInLines_iff.1 hraw
    obtain ⟨hmem, happlies⟩ := List.mem_filter.1 hrule
    exact h site.rule hmem happlies site.line (List.mem_of_getElem? hline)
      (List.ne_nil_of_mem hhit)

/-- What is matched in a text gives findings, unless a rule that cannot be named hits. -/
theorem aggregate_matchesInLines_cases (catalog : Catalog) (language : Language)
    (text seed : String) :
    let result := aggregate catalog (Text.lines text) seed
      (catalog.matchesInLines language (Text.lines text))
    catalog.Nameable language text ∧ (∃ findings, result = .ok findings) ∨
      ¬catalog.Nameable language text ∧
        ∃ rule ∈ catalog.rules, rule.id.text? = none ∧ result = .error (.unencodable rule.id) := by
  intro result
  have hok : (∃ findings, result = .ok findings) ↔ catalog.Nameable language text :=
    (exists_aggregate_eq_ok_iff_of_mem fun _ => placed_of_mem_matchesInLines).trans
      forall_mem_matchesInLines_iff
  cases hresult : result with
  | ok findings => exact .inl ⟨hok.1 ⟨findings, hresult⟩, findings, rfl⟩
  | error fault =>
    refine .inr ⟨fun h => ?_, ?_⟩
    · obtain ⟨findings, hfindings⟩ := hok.2 h
      cases hfindings.symm.trans hresult
    · have hknown : ∀ id, fault ≠ .unknownRule id := by
        rintro id rfl
        obtain ⟨raw, hraw, hrule⟩ := exists_unknownRule_iff.1 ⟨id, hresult⟩
        exact hrule (placed_of_mem_matchesInLines hraw).1
      obtain ⟨-, raw, hraw, hfault, -⟩ := (aggregate_eq_error_iff hknown).1 hresult
      obtain ⟨hrule, hlow, hhigh⟩ := placed_of_mem_matchesInLines hraw
      obtain ⟨rule, hmem, hid⟩ := List.mem_map.1 hrule
      have hline : -((Text.lines text).length : Int) ≤ raw.line - 1 ∧
          raw.line - 1 < (Text.lines text).length := by omega
      rw [Aggregate.faultOf?, if_pos hline, ← hid] at hfault
      split at hfault
      · next hnone =>
        cases hfault
        exact ⟨rule, hmem, hnone, rfl⟩
      · cases hfault

variable {source : Source} {options : ScanOptions}

theorem inspect_of_decode_eq_error {cause : SourceFault} (h : source.decode = .error cause) :
    catalog.inspect source language options = .error (.source cause) := by
  rw [inspect, h]

theorem inspect_of_decode_eq_ok (h : source.decode = .ok text) :
    catalog.Nameable language text ∧
        (∃ inspection, catalog.inspect source language options = .ok inspection) ∨
      ¬catalog.Nameable language text ∧ ∃ rule ∈ catalog.rules, rule.id.text? = none ∧
        catalog.inspect source language options = .error (.aggregate (.unencodable rule.id)) := by
  unfold inspect findingsIn
  rw [h]
  rcases aggregate_matchesInLines_cases catalog language text (options.seedFor language text) with
    ⟨hnameable, findings, hfindings⟩ | ⟨hnameable, rule, hrule, hnone, hfault⟩
  · exact .inl ⟨hnameable, by simp [hfindings, bind, Except.bind, pure, Except.pure]⟩
  · exact .inr ⟨hnameable, rule, hrule, hnone, by simp [hfault, bind, Except.bind]⟩

end Catalog

/-! ## One file -/

namespace Files.Workspace

/-- The text of a file that can be read, is within the limit and is valid UTF-8. -/
def textAt? (workspace : Workspace) (options : FileScanOptions) (path : Path) : Option String :=
  match workspace.readFile path with
  | .ok bytes =>
    match Text.readUtf8 bytes with
    | .ok cs => if options.admits bytes.length then some (String.ofList cs) else none
    | .error _ => none
  | .error _ => none

/-- What is wrong with a file that can be read and is within the limit, but is not valid UTF-8. -/
def misreading? (workspace : Workspace) (options : FileScanOptions) (path : Path) :
    Option SourceFault :=
  match workspace.readFile path with
  | .ok bytes =>
    match Text.readUtf8 bytes with
    | .error fault => if options.admits bytes.length then some (.notUtf8 fault) else none
    | .ok _ => none
  | .error _ => none

/-- The file can be read, is within the limit and is valid UTF-8. -/
def isScannable (workspace : Workspace) (options : FileScanOptions) (path : Path) : Bool :=
  (workspace.textAt? options path).isSome

/-- A file is found with its bytes, or without them, or it is not found. -/
theorem findFile_cases (workspace : Workspace) (path : Path) :
    (∃ bytes, workspace.findFile path = .ok ⟨bytes.length, some bytes⟩ ∧
      workspace.readFile path = .ok bytes) ∨
    (∃ size, workspace.findFile path = .ok ⟨size, none⟩ ∧
      workspace.readFile path = .error .denied) ∨
    ∃ fault, workspace.findFile path = .error fault ∧ workspace.readFile path = .error fault := by
  unfold readFile findFile
  split
  · exact .inl ⟨_, rfl, rfl⟩
  · exact .inr (.inl ⟨_, rfl, rfl⟩)
  all_goals exact .inr (.inr ⟨_, rfl, rfl⟩)

end Files.Workspace

/-- What matches could not be made into findings for. -/
def FileScanFault.naming? : FileScanFault → Option AggregateFault
  | scan (.aggregate fault) => some fault
  | scan (.source _) | unreadable _ | tooLarge _ _ _ => none

namespace Catalog

/-- What the scan of a file fails for when its text is valid. -/
def namingFault? (catalog : Catalog) (workspace : Workspace) (options : FileScanOptions)
    (path : Path) : Option AggregateFault :=
  match catalog.scanFile workspace path options with
  | .ok _ => none
  | .error fault => fault.naming?

/-- What becomes of a file: it is scanned, or it fails for the name of a rule, or it is no valid
text, or it is not looked into. -/
inductive FileFate (catalog : Catalog) (workspace : Workspace) (options : FileScanOptions)
    (path : Path) : Prop
  | scanned {text : String} {inspection : Inspection}
      (valid : workspace.textAt? options path = some text)
      (sound : workspace.misreading? options path = none)
      (nameable : catalog.Nameable (options.languageOf path) text)
      (inspected : catalog.inspectFile workspace path options = .ok inspection)
  | unnamed {text : String} {rule : Rule} (valid : workspace.textAt? options path = some text)
      (sound : workspace.misreading? options path = none)
      (unnameable : ¬catalog.Nameable (options.languageOf path) text)
      (mem : rule ∈ catalog.rules) (surrogates : rule.id.text? = none)
      (inspected : catalog.inspectFile workspace path options =
        .error (.scan (.aggregate (.unencodable rule.id))))
  | misread {fault : SourceFault} (invalid : workspace.textAt? options path = none)
      (misreading : workspace.misreading? options path = some fault)
      (inspected : catalog.inspectFile workspace path options = .error (.scan (.source fault)))
  | passed {fault : FileScanFault} (invalid : workspace.textAt? options path = none)
      (sound : workspace.misreading? options path = none)
      (inspected : catalog.inspectFile workspace path options = .error fault)
      (other : ∀ cause, fault ≠ .scan cause)

variable {catalog : Catalog} {workspace : Workspace} {options : FileScanOptions} {path : Path}

/-- A file with bytes within the limit is scanned, unless they are no text or a rule that cannot be
named hits. -/
theorem fileFate_of_bytes {bytes : List UInt8}
    (hfind : workspace.findFile path = .ok ⟨bytes.length, some bytes⟩)
    (hread : workspace.readFile path = .ok bytes) (hsize : options.admits bytes.length = true) :
    catalog.FileFate workspace options path := by
  have hinspect : catalog.inspectFile workspace path options =
      (catalog.inspect (.bytes bytes) (options.languageOf path)
        { file := some path.toString, resolveFixes := options.resolveFixes }).mapError .scan := by
    simp [inspectFile, hfind, hsize]
  cases hutf8 : Text.readUtf8 bytes with
  | ok cs =>
    have hvalid : workspace.textAt? options path = some (String.ofList cs) := by
      simp [Workspace.textAt?, hread, hutf8, hsize]
    have hsound : workspace.misreading? options path = none := by
      simp [Workspace.misreading?, hread, hutf8]
    have hdecode : (Source.bytes bytes).decode = .ok (String.ofList cs) := by
      rw [Source.decode, hutf8]
    rcases inspect_of_decode_eq_ok hdecode with
      ⟨hnameable, inspection, hok⟩ | ⟨hunnameable, rule, hmem, hnone, herror⟩
    · exact .scanned hvalid hsound hnameable (hinspect.trans (mapError_eq_ok.2 hok))
    · exact .unnamed hvalid hsound hunnameable hmem hnone
        (hinspect.trans (mapError_eq_error.2 ⟨_, herror, rfl⟩))
  | error fault =>
    have hinvalid : workspace.textAt? options path = none := by
      simp [Workspace.textAt?, hread, hutf8]
    have hmisreading : workspace.misreading? options path = some (.notUtf8 fault) := by
      simp [Workspace.misreading?, hread, hutf8, hsize]
    have hdecode : (Source.bytes bytes).decode = .error (.notUtf8 fault) := by
      rw [Source.decode, hutf8]
    exact .misread hinvalid hmisreading
      (hinspect.trans (mapError_eq_error.2 ⟨_, inspect_of_decode_eq_error hdecode, rfl⟩))

/-- A file that is over the limit is not looked into, whether it could be read or not. -/
theorem inspectFile_of_tooLarge {found : Workspace.FoundFile}
    (hfind : workspace.findFile path = .ok found) (hsize : ¬options.admits found.size = true) :
    catalog.inspectFile workspace path options =
      .error (.tooLarge path found.size (options.maxSize.getD 0)) := by
  simp [inspectFile, hfind, hsize]

/-- A file within the limit that cannot be read is not looked into. -/
theorem inspectFile_of_sealed {size : Nat} (hfind : workspace.findFile path = .ok ⟨size, none⟩)
    (hsize : options.admits size = true) :
    catalog.inspectFile workspace path options = .error (.unreadable .denied) := by
  simp [inspectFile, hfind, hsize]

theorem inspectFile_of_notFound {fault : ReadFault}
    (hfind : workspace.findFile path = .error fault) :
    catalog.inspectFile workspace path options = .error (.unreadable fault) := by
  rw [inspectFile, hfind]

theorem fileFate (catalog : Catalog) (workspace : Workspace) (options : FileScanOptions)
    (path : Path) : catalog.FileFate workspace options path := by
  rcases workspace.findFile_cases path with
    ⟨bytes, hfind, hread⟩ | ⟨size, hfind, hread⟩ | ⟨fault, hfind, hread⟩
  · by_cases hsize : options.admits bytes.length = true
    · exact fileFate_of_bytes hfind hread hsize
    · refine .passed ?_ ?_ (inspectFile_of_tooLarge hfind hsize) nofun
      · cases hutf8 : Text.readUtf8 bytes <;> simp [Workspace.textAt?, hread, hutf8, hsize]
      · cases hutf8 : Text.readUtf8 bytes <;> simp [Workspace.misreading?, hread, hutf8, hsize]
  · have hinvalid : workspace.textAt? options path = none := by simp [Workspace.textAt?, hread]
    have hsound : workspace.misreading? options path = none := by
      simp [Workspace.misreading?, hread]
    by_cases hsize : options.admits size = true
    · exact .passed hinvalid hsound (inspectFile_of_sealed hfind hsize) nofun
    · exact .passed hinvalid hsound (inspectFile_of_tooLarge hfind hsize) nofun
  · have hinvalid : workspace.textAt? options path = none := by simp [Workspace.textAt?, hread]
    have hsound : workspace.misreading? options path = none := by
      simp [Workspace.misreading?, hread]
    exact .passed hinvalid hsound (inspectFile_of_notFound hfind) nofun

theorem scanFile_of_inspectFile {inspection : Inspection}
    (h : catalog.inspectFile workspace path options = .ok inspection) :
    catalog.scanFile workspace path options = .ok inspection.report := by
  rw [scanFile, h]
  rfl

theorem namingFault?_of_ok {inspection : Inspection}
    (h : catalog.inspectFile workspace path options = .ok inspection) :
    catalog.namingFault? workspace options path = none := by
  rw [namingFault?, scanFile_of_inspectFile h]

theorem namingFault?_of_error {fault : FileScanFault}
    (h : catalog.inspectFile workspace path options = .error fault) :
    catalog.namingFault? workspace options path = fault.naming? := by
  rw [namingFault?, scanFile, h]
  rfl

theorem naming?_eq_none {fault : FileScanFault} (h : ∀ cause, fault ≠ .scan cause) :
    fault.naming? = none := by
  cases fault with
  | scan cause => exact absurd rfl (h cause)
  | unreadable | tooLarge => rfl

/-- The scan of valid text fails just where a rule that cannot be named hits. -/
theorem namingFault?_eq_none_iff :
    catalog.namingFault? workspace options path = none ↔
      ∀ text, workspace.textAt? options path = some text →
        catalog.Nameable (options.languageOf path) text := by
  cases catalog.fileFate workspace options path with
  | scanned hvalid hsound hnameable hinspected =>
    rw [namingFault?_of_ok hinspected, hvalid]
    simpa using hnameable
  | unnamed hvalid hsound hunnameable hmem hnone hinspected =>
    rw [namingFault?_of_error hinspected, hvalid]
    simpa [FileScanFault.naming?] using hunnameable
  | misread hinvalid hmisreading hinspected =>
    rw [namingFault?_of_error hinspected, hinvalid]
    simp [FileScanFault.naming?]
  | passed hinvalid hsound hinspected hother =>
    rw [namingFault?_of_error hinspected, naming?_eq_none hother, hinvalid]
    simp

theorem exists_rule_of_namingFault? {fault : AggregateFault}
    (h : catalog.namingFault? workspace options path = some fault) :
    ∃ rule ∈ catalog.rules, rule.id.text? = none ∧ fault = .unencodable rule.id := by
  cases catalog.fileFate workspace options path with
  | scanned hvalid hsound hnameable hinspected =>
    rw [namingFault?_of_ok hinspected] at h
    cases h
  | unnamed hvalid hsound hunnameable hmem hnone hinspected =>
    rw [namingFault?_of_error hinspected] at h
    cases h
    exact ⟨_, hmem, hnone, rfl⟩
  | misread hinvalid hmisreading hinspected =>
    rw [namingFault?_of_error hinspected] at h
    cases h
  | passed hinvalid hsound hinspected hother =>
    rw [namingFault?_of_error hinspected, naming?_eq_none hother] at h
    cases h

/-! ## All files -/

/-- The report on the file stands in that of the run. -/
def isReported (catalog : Catalog) (workspace : Workspace) (options : FileScanOptions)
    (path : Path) : Bool :=
  workspace.isScannable options path && (catalog.namingFault? workspace options path).isNone

/-- What a strict run ends at. -/
def strictFault? (catalog : Catalog) (workspace : Workspace) (options : FileScanOptions)
    (path : Path) : Option ScanFault :=
  ((workspace.misreading? options path).map .source).or
    ((catalog.namingFault? workspace options path).map .aggregate)

/-- What a file is for a run that is strict, or not. -/
theorem surveyFile_cases (catalog : Catalog) (workspace : Workspace) (options : FileScanOptions)
    (path : Path) :
    (catalog.isReported workspace options path = true ∧
      catalog.namingFault? workspace options path = none ∧
      catalog.strictFault? workspace options path = none ∧
      ∃ report notice, catalog.scanFile workspace path options = .ok report ∧
        ∀ strict, catalog.surveyFile workspace ⟨options, strict⟩ path = .report report notice) ∨
    (catalog.isReported workspace options path = false ∧
      ∃ fault, catalog.namingFault? workspace options path = some fault ∧
        catalog.strictFault? workspace options path = some (.aggregate fault) ∧
        ∀ strict, catalog.surveyFile workspace ⟨options, strict⟩ path = .abort (.aggregate fault)) ∨
    (catalog.isReported workspace options path = false ∧
      catalog.namingFault? workspace options path = none ∧
      ∃ notice, catalog.surveyFile workspace ⟨options, false⟩ path = .skip notice ∧
        match catalog.strictFault? workspace options path with
        | some fault => catalog.surveyFile workspace ⟨options, true⟩ path = .abort fault
        | none => catalog.surveyFile workspace ⟨options, true⟩ path = .skip notice) := by
  unfold isReported strictFault? surveyFile Workspace.isScannable
  cases catalog.fileFate workspace options path with
  | scanned hvalid hsound hnameable hinspected =>
    rw [namingFault?_of_ok hinspected, hvalid, hsound]
    exact .inl ⟨rfl, rfl, rfl, _, _, scanFile_of_inspectFile hinspected,
      fun _ => by rw [hinspected]⟩
  | unnamed hvalid hsound hunnameable hmem hnone hinspected =>
    rw [namingFault?_of_error hinspected, hvalid, hsound]
    exact .inr (.inl ⟨rfl, _, rfl, rfl, fun _ => by rw [hinspected]⟩)
  | misread hinvalid hmisreading hinspected =>
    rw [namingFault?_of_error hinspected, hinvalid, hmisreading, hinspected]
    exact .inr (.inr ⟨rfl, rfl, _, rfl, rfl⟩)
  | @passed fault hinvalid hsound hinspected hother =>
    rw [namingFault?_of_error hinspected, naming?_eq_none hother, hinvalid, hsound, hinspected]
    refine .inr (.inr ⟨rfl, rfl, ?_⟩)
    cases fault with
    | scan cause => exact absurd rfl (hother cause)
    | unreadable | tooLarge => exact ⟨_, rfl, rfl⟩

/-- What some files give: reports on those that can be scanned, one after another, unless the run
meets a file where a rule that cannot be named hits or, if it is strict, one that is no valid
text. -/
theorem surveyFiles_result (catalog : Catalog) (workspace : Workspace) (options : FileScanOptions)
    (paths : List Path) :
    ∃ reports,
      (paths.filter (catalog.isReported workspace options)).map
        (catalog.scanFile workspace · options) = reports.map .ok ∧
      (catalog.surveyFiles workspace ⟨options, false⟩ paths).result =
        (match paths.findSome? (catalog.namingFault? workspace options) with
        | some fault => .error (.aggregate fault)
        | none => .ok reports) ∧
      (catalog.surveyFiles workspace ⟨options, true⟩ paths).result =
        match paths.findSome? (catalog.strictFault? workspace options) with
        | some fault => .error fault
        | none => .ok reports := by
  induction paths with
  | nil => exact ⟨[], rfl, rfl, rfl⟩
  | cons path rest ih =>
    obtain ⟨reports, hreports, hlenient, hstrict⟩ := ih
    rw [List.findSome?_cons, List.findSome?_cons, List.filter_cons]
    unfold surveyFiles
    rcases surveyFile_cases catalog workspace options path with
      ⟨hreported, hnaming, hfault, report, notice, hscan, hfile⟩ |
        ⟨hreported, fault, hnaming, hfault, habort⟩ | ⟨hreported, hnaming, notice, hskip, hstrictly⟩
    · refine ⟨report :: reports, ?_, ?_, ?_⟩
      · rw [if_pos hreported, List.map_cons, hscan, hreports, List.map_cons]
      · rw [hfile, hnaming]
        dsimp only
        rw [hlenient]
        cases rest.findSome? (catalog.namingFault? workspace options) <;> rfl
      · rw [hfile, hfault]
        dsimp only
        rw [hstrict]
        cases rest.findSome? (catalog.strictFault? workspace options) <;> rfl
    · refine ⟨reports, ?_, ?_, ?_⟩
      · rw [hreported]
        exact hreports
      · rw [habort, hnaming]
      · rw [habort, hfault]
    · refine ⟨reports, ?_, ?_, ?_⟩
      · rw [hreported]
        exact hreports
      · rw [hskip, hnaming]
        exact hlenient
      · cases hfault : catalog.strictFault? workspace options path with
        | some fault =>
          rw [hfault] at hstrictly
          rw [hstrictly]
        | none =>
          rw [hfault] at hstrictly
          rw [hstrictly]
          exact hstrict

end Catalog

/-! ## Where a search stops -/

namespace Files

variable {workspace : Workspace} {extensions : List String} {root : Path}

/-- A search from a root comes to its end: it may look at the root, no directory that it sees is too
far down or has too long a path, and it can tell of all that it sees under a wanted name what it
is. -/
structure Workspace.IsWithinReach (workspace : Workspace) (extensions : List String)
    (root : Path) : Prop where
  itself : workspace.find root ≠ .error .tooLong ∧ workspace.find root ≠ .error .denied
  directories : ∀ tree sight, workspace.find root = .ok tree → tree.Shows sight →
    sight.item.isDirectory = true →
      sight.names.length ≤ searchLimit ∧ (root.below sight.names).isTooLong = false
  wanted : ∀ tree sight, workspace.find root = .ok tree → tree.Shows sight →
    IsWanted extensions sight.names →
      (root.below sight.names).isTooLong = false ∧ sight.isReached = true

theorem Harvest.stop_upTo {sights : List Sight} :
    (upTo root sights).stop = none ↔ ∀ sight ∈ sights,
      (root.below sight.names).isTooLong = false ∧ sight.isReached = true := by
  induction sights with
  | nil => simp [upTo]
  | cons sight rest ih =>
    rw [List.forall_mem_cons, ← ih, upTo, barrier?]
    cases (root.below sight.names).isTooLong with
    | true => simp [stopped]
    | false =>
      cases sight.isReached with
      | false => simp [stopped]
      | true => cases sight.item.isDirectory <;> simp [behind]

theorem Tree.Sight.obstacle?_eq_none_iff {sight : Sight} :
    sight.obstacle? root = none ↔ (sight.item.isDirectory = true →
      sight.names.length ≤ searchLimit ∧ (root.below sight.names).isTooLong = false) := by
  unfold obstacle?
  cases sight.item.isDirectory with
  | false => simp
  | true =>
    by_cases hdeep : searchLimit < sight.names.length
    · simp [hdeep, Nat.not_le.2 hdeep]
    · cases (root.below sight.names).isTooLong <;> simp [hdeep, Nat.not_lt.1 hdeep]

theorem Workspace.stop_filesAt :
    (workspace.filesAt (extensions.map Text.lowercase) root).stop = none ↔
      workspace.IsWithinReach extensions root := by
  unfold filesAt
  cases hfind : workspace.find root with
  | error fault =>
    have hreach : workspace.IsWithinReach extensions root ↔
        fault ≠ .tooLong ∧ fault ≠ .denied := by
      constructor
      · exact fun h => by simpa [hfind] using h.itself
      · exact fun h => ⟨by simpa [hfind] using h, by simp [hfind], by simp [hfind]⟩
    rw [hreach]
    cases fault <;> simp [Harvest.stopped]
  | ok tree =>
    have hreach : workspace.IsWithinReach extensions root ↔
        (∀ sight ∈ tree.seen, sight.obstacle? root = none) ∧
          ∀ sight ∈ takenBelow (extensions.map Text.lowercase) tree,
            (root.below sight.names).isTooLong = false ∧ sight.isReached = true := by
      simp only [Tree.mem_seen_iff, mem_takenBelow, Tree.Sight.obstacle?_eq_none_iff]
      constructor
      · rintro ⟨-, hdirectories, hwanted⟩
        refine ⟨fun sight => hdirectories tree sight hfind, ?_⟩
        rintro sight ⟨hshows, htaken⟩
        exact hwanted tree sight hfind hshows ((isTaken_iff hshows.names_ne_nil).1 htaken)
      · rintro ⟨hdirectories, hwanted⟩
        refine ⟨by simp [hfind], ?_, ?_⟩
        · intro found sight hfound hshows
          obtain rfl : tree = found := by simpa [hfind] using hfound
          exact hdirectories sight hshows
        · intro found sight hfound hshows hwant
          obtain rfl : tree = found := by simpa [hfind] using hfound
          exact hwanted sight ⟨hshows, (isTaken_iff hshows.names_ne_nil).2 hwant⟩
    rw [hreach]
    cases tree with
    | file | sealed => simp [Tree.isDirectory, Tree.seen, takenBelow]
    | directory access entries =>
      simp only [Tree.isDirectory, Bool.not_true, Bool.false_eq_true, if_false]
      rw [← List.findSome?_eq_none_iff]
      cases (Tree.directory access entries).seen.findSome? (·.obstacle? root) with
      | some cause => simp [Harvest.stopped]
      | none => simp [Harvest.stop_upTo]

theorem Workspace.stop_filesFrom {roots : List Path} :
    (workspace.filesFrom (extensions.map Text.lowercase) roots).stop = none ↔
      ∀ root ∈ roots, workspace.IsWithinReach extensions root := by
  induction roots with
  | nil => simp [filesFrom]
  | cons root rest ih =>
    rw [List.forall_mem_cons, ← stop_filesAt, ← ih, filesFrom]
    cases hstop : (workspace.filesAt (extensions.map Text.lowercase) root).stop with
    | some cause => simp [hstop]
    | none => simp [Harvest.behind]

end Files

/-! ## Runs -/

namespace Catalog

theorem survey_result (catalog : Catalog) (workspace : Workspace) (options : SurveyOptions)
    (harvest : Harvest) :
    (catalog.survey workspace options harvest).result =
      match (catalog.surveyFiles workspace options harvest.paths).result, harvest.stop with
      | .error fault, _ => .error (.scan fault)
      | .ok _, some cause => .error (.search cause)
      | .ok reports, none => .ok (Report.merge reports) := by
  unfold survey
  dsimp only
  cases (catalog.surveyFiles workspace options harvest.paths).result with
  | error fault => rfl
  | ok reports => cases harvest.stop <;> rfl

/-- Where all rules have texts of characters for their identifiers, no file ends a run that is not
strict. -/
theorem namingFault?_eq_none_of_texts {catalog : Catalog} (workspace : Workspace)
    (options : FileScanOptions) (path : Path)
    (hids : ∀ rule ∈ catalog.rules, ∃ id : String, rule.id = id) :
    catalog.namingFault? workspace options path = none :=
  namingFault?_eq_none_iff.2 fun text _ => nameable_of_texts hids _ text

/-- A file that is over the limit is skipped, whether it could be read or not and whatever is in
it. -/
theorem surveyFile_of_tooLarge {catalog : Catalog} {workspace : Workspace}
    {options : FileScanOptions} {strict : Bool} {path : Path} {found : Workspace.FoundFile}
    {limit : Int} (hlimit : options.maxSize = some limit)
    (hfind : workspace.findFile path = .ok found) (hlarge : limit < found.size) :
    catalog.surveyFile workspace ⟨options, strict⟩ path =
      .skip (.skippedLarge path found.size limit) := by
  have hadmits : ¬options.admits found.size = true := by
    simpa [FileScanOptions.admits, hlimit] using hlarge
  rw [surveyFile, inspectFile_of_tooLarge hfind hadmits, hlimit]
  rfl

/-- A file within the limit that may not be read is skipped. -/
theorem surveyFile_of_sealed {catalog : Catalog} {workspace : Workspace}
    {options : FileScanOptions} {strict : Bool} {path : Path} {size : Nat}
    (hfind : workspace.findFile path = .ok ⟨size, none⟩) (hadmits : options.admits size = true) :
    catalog.surveyFile workspace ⟨options, strict⟩ path =
      .skip (.skipped path (ReadFault.denied.message path)) := by
  rw [surveyFile, inspectFile_of_sealed hfind hadmits]

/-- Any run scans just the files that can be read, are within the limit and are valid UTF-8, each
as if it were alone, and merges the reports in the order of the files. A strict one ends at the
first file within the limit that is not valid UTF-8. Besides, either ends at a file where a rule
hits whose identifier has surrogates, and there is none where all identifiers are texts of
characters. A file over the limit is skipped, and so is one within it that may not be read. And
there is no report where the search for files does not come to its end. -/
theorem survey_skips_what_cannot_be_scanned (catalog : Catalog) (workspace : Workspace)
    (options : FileScanOptions) (extensions : List String) (roots : List Path) :
    let harvest := workspace.filesAtRoots extensions roots
    (∃ reports,
      (harvest.paths.filter (catalog.isReported workspace options)).map
        (catalog.scanFile workspace · options) = reports.map .ok ∧
      (catalog.survey workspace ⟨options, false⟩ harvest).result =
        (match harvest.paths.findSome? (catalog.namingFault? workspace options), harvest.stop with
        | some fault, _ => .error (.scan (.aggregate fault))
        | none, some cause => .error (.search cause)
        | none, none => .ok (Report.merge reports)) ∧
      (catalog.survey workspace ⟨options, true⟩ harvest).result =
        (match harvest.paths.findSome? (catalog.strictFault? workspace options) with
        | some fault => .error (.scan fault)
        | none => (catalog.survey workspace ⟨options, false⟩ harvest).result)) ∧
    (∀ path, catalog.namingFault? workspace options path = none ↔
      ∀ text, workspace.textAt? options path = some text →
        catalog.Nameable (options.languageOf path) text) ∧
    (∀ path fault, catalog.namingFault? workspace options path = some fault →
      ∃ rule ∈ catalog.rules, rule.id.text? = none ∧ fault = .unencodable rule.id) ∧
    ((∀ rule ∈ catalog.rules, ∃ id : String, rule.id = id) →
      ∀ path, catalog.namingFault? workspace options path = none) ∧
    (∀ strict path found limit, options.maxSize = some limit →
      workspace.findFile path = .ok found → limit < found.size →
        catalog.surveyFile workspace ⟨options, strict⟩ path =
          .skip (.skippedLarge path found.size limit)) ∧
    (∀ strict path size, workspace.findFile path = .ok ⟨size, none⟩ →
      options.admits size = true →
        catalog.surveyFile workspace ⟨options, strict⟩ path =
          .skip (.skipped path (ReadFault.denied.message path))) ∧
    (harvest.stop = none ↔ ∀ root ∈ roots, workspace.IsWithinReach extensions root) := by
  intro harvest
  obtain ⟨reports, hreports, hlenient, hstrict⟩ :=
    surveyFiles_result catalog workspace options harvest.paths
  refine ⟨⟨reports, hreports, ?_, ?_⟩, fun _ => namingFault?_eq_none_iff,
    fun _ _ => exists_rule_of_namingFault?,
    fun hids path => namingFault?_eq_none_of_texts workspace options path hids,
    fun _ _ _ _ => surveyFile_of_tooLarge, fun _ _ _ => surveyFile_of_sealed,
    Files.Workspace.stop_filesFrom⟩
  · rw [survey_result, hlenient]
    cases harvest.paths.findSome? (catalog.namingFault? workspace options) with
    | some fault => rfl
    | none => cases harvest.stop <;> rfl
  · rw [survey_result, survey_result, hlenient, hstrict]
    cases hfault : harvest.paths.findSome? (catalog.strictFault? workspace options) with
    | some fault => rfl
    | none =>
      have hnaming : harvest.paths.findSome? (catalog.namingFault? workspace options) = none := by
        rw [List.findSome?_eq_none_iff] at hfault ⊢
        intro path hpath
        have hpath := hfault path hpath
        rw [strictFault?, Option.or_eq_none_iff] at hpath
        exact Option.map_eq_none_iff.1 hpath.2
      rw [hnaming]

/-- A file that may not be read, and one that may. -/
example :
    let workspace : Workspace :=
      { tree := .directory {} [("a.py", .sealed 1), ("b.py", .file [33])], here := [] }
    let harvest := workspace.filesAtRoots [".py"] [⟨"", ["a.py"]⟩, ⟨"", ["b.py"]⟩]
    let outcome := small.survey workspace {} harvest
    outcome.result.map (fun report => report.findings.map (·.location.file)) = .ok [some "b.py"] ∧
      outcome.notices.head? = some
        (.skipped ⟨"", ["a.py"]⟩ "[Errno 13] Permission denied: 'a.py'") := by
  decide +kernel

/-- A directory with nothing in it. -/
def emptyDirectory : Workspace where
  tree := .empty
  here := []

theorem find_longName {name : String} (hlong : Files.isTooLong name = true)
    (hzero : '\x00' ∉ name.toList) : emptyDirectory.find ⟨"", [name]⟩ = .error .tooLong := by
  have hup : name ≠ ".." := by
    rintro rfl
    exact absurd hlong (by decide)
  have hplain : Path.containsZero ⟨"", [name]⟩ = false := by
    simpa [Path.containsZero] using hzero
  have hnowhere : emptyDirectory.tree.find [name] = .error .tooLong := by
    simp [Tree.find, emptyDirectory, Tree.empty, Tree.findFrom, hup, hlong]
  unfold Workspace.find
  rw [hplain, if_neg Bool.false_ne_true]
  split
  · rfl
  · exact hnowhere

theorem utf8ByteSize_replicate (n : Nat) :
    (String.ofList (List.replicate n 'x')).utf8ByteSize = n := by
  induction n with
  | zero => rfl
  | succ n ih =>
    have hone : 'x'.utf8Size = 1 := rfl
    rw [List.replicate_succ, String.ofList_cons, String.utf8ByteSize_append,
      String.utf8ByteSize_singleton, ih, hone, Nat.add_comm]

theorem find_replicate {n : Nat} (h : Files.nameLimit < n) :
    emptyDirectory.find ⟨"", [String.ofList (List.replicate n 'x')]⟩ = .error .tooLong := by
  apply find_longName
  · rw [Files.isTooLong, utf8ByteSize_replicate]
    exact decide_eq_true h
  · rw [String.toList_ofList]
    exact fun hmem => absurd (List.eq_of_mem_replicate hmem) (by decide)

/-- A search from a missing root is stopped when the name is too long. -/
theorem filesAtRoots_replicate {n : Nat} (h : Files.nameLimit < n) (extensions : List String) :
    emptyDirectory.filesAtRoots extensions [⟨"", [String.ofList (List.replicate n 'x')]⟩] =
      .stopped .pathTooLong := by
  rw [Workspace.filesAtRoots, Workspace.filesFrom, Workspace.filesAt, find_replicate h]
  rfl

/-- Where nothing is, a root gives no files. But one whose name is too long leaves a run without a
report, strict or not. -/
theorem missing_root_with_a_long_name_stops_the_run :
    (survey ⟨[], []⟩ emptyDirectory {}
      (emptyDirectory.filesAtRoots [".py"] [⟨"", ["x"]⟩])).result = .ok (Report.merge []) ∧
    (survey ⟨[], []⟩ emptyDirectory {} (emptyDirectory.filesAtRoots [".py"]
      [⟨"", [String.ofList (List.replicate 256 'x')]⟩])).result =
        .error (.search .pathTooLong) := by
  constructor
  · have hnone : emptyDirectory.filesAtRoots [".py"] [⟨"", ["x"]⟩] = {} := by decide +kernel
    rw [hnone]
    rfl
  · rw [filesAtRoots_replicate (by decide)]
    rfl

end Catalog

end SourceAudit
