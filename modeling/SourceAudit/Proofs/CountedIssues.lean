-- How often a run counts an issue: once for each of its roots that the issue is found from. So
-- nothing is counted twice where no root lies at another one or below it; other roots may give a
-- file several times, and each time all that is in it counts.

import SourceAudit.Proofs.BuiltCatalog
import SourceAudit.Proofs.Merging
import SourceAudit.Proofs.SkippedFiles
import SourceAudit.Proofs.TakenFiles
import Mathlib.Data.List.Dedup

namespace SourceAudit

open SourceAudit.Files (Harvest Path Tree Workspace)

/-! ## Issues -/

/-- What makes an issue: its file, its rule and its line. -/
def Finding.issue (finding : Finding) : Option String × WideText × Int :=
  (finding.location.file, finding.subject)

/-- The issues of a report, finding by finding. -/
def Report.issues (report : Report) : List (Option String × WideText × Int) :=
  report.findings.map Finding.issue

theorem Report.issues_merge {parts : List Report} (hparts : ∀ part ∈ parts, part.Assembled) :
    (merge parts).issues = parts.flatMap issues := by
  rw [issues, findings_merge_of_assembled hparts, List.map_flatMap]
  rfl

/-- In a report that repeats no issue, each count is that of the distinct issues of a severity. -/
theorem Report.Assembled.count_eq_of_nodup {report : Report} (h : report.Assembled)
    (hissues : report.issues.Nodup) (severity : Severity) :
    report.summary.count severity =
      ((report.findings.filter (·.severity = severity)).map Finding.issue).dedup.length := by
  have hnodup : ((report.findings.filter (·.severity = severity)).map Finding.issue).Nodup :=
    hissues.sublist (List.filter_sublist.map _)
  rw [h.count_eq, hnodup.dedup, List.length_map, List.countP_eq_length_filter]

theorem count_flatMap_of_nodup {α β : Type} [BEq β] [LawfulBEq β] {f : α → List β} {xs : List α}
    (h : ∀ x ∈ xs, (f x).Nodup) (y : β) : (xs.flatMap f).count y = xs.countP (y ∈ f ·) := by
  induction xs with
  | nil => rfl
  | cons x rest ih =>
    obtain ⟨hx, hrest⟩ := List.forall_mem_cons.1 h
    rw [List.flatMap_cons, List.count_append, ih hrest, hx.count, List.countP_cons, Nat.add_comm]
    simp

/-! ## One file -/

theorem ScanOptions.issue_completed {options : ScanOptions} {file : String}
    (hfile : options.file = some file) (catalog : Catalog) (finding : Finding) :
    (options.completed catalog finding).issue = (some file, finding.subject) := by
  unfold completed
  rw [hfile]
  cases options.resolveFixes <;> rfl

namespace Catalog

variable {catalog : Catalog} {workspace : Workspace} {options : FileScanOptions}

/-- What a scan finds are the findings of an aggregation, completed. -/
theorem exists_aggregate_of_inspect {source : Source} {language : Language} {options : ScanOptions}
    {inspection : Inspection} (h : catalog.inspect source language options = .ok inspection) :
    ∃ lines seed raws found, aggregate catalog lines seed raws = .ok found ∧
      inspection.findings = found.map (options.completed catalog) := by
  unfold inspect at h
  cases hdecode : source.decode with
  | error cause => simp [hdecode] at h
  | ok text =>
    cases hfindings : catalog.findingsIn text language options with
    | error fault => simp [hdecode, hfindings] at h
    | ok findings =>
      obtain ⟨found, hfound, hcomplete⟩ := bind_eq_ok.1 hfindings
      rw [hdecode] at h
      simp only [hfindings] at h
      cases h
      cases hcomplete
      exact ⟨_, _, _, found, hfound, options.complete_eq_map catalog found⟩

theorem exists_inspect_of_scanFile {path : Path} {report : Report}
    (h : catalog.scanFile workspace path options = .ok report) :
    ∃ source language inspection,
      catalog.inspect source language
          { file := some path.toString, resolveFixes := options.resolveFixes } = .ok inspection ∧
        report = inspection.report := by
  unfold scanFile at h
  cases hinspected : catalog.inspectFile workspace path options with
  | error fault => simp [hinspected, Except.map] at h
  | ok inspection =>
    rw [hinspected] at h
    cases h
    unfold inspectFile at hinspected
    split at hinspected
    · cases hinspected
    · split at hinspected
      · split at hinspected
        · exact ⟨_, _, inspection, mapError_eq_ok.1 hinspected, rfl⟩
        · cases hinspected
      · cases hinspected

/-- The scan of a file repeats no issue, and all its issues are of that file. -/
theorem issues_of_scanFile {path : Path} {report : Report}
    (h : catalog.scanFile workspace path options = .ok report) :
    report.Assembled ∧ report.issues.Nodup ∧
      ∀ issue ∈ report.issues, issue.1 = some path.toString := by
  obtain ⟨source, language, inspection, hinspect, rfl⟩ := exists_inspect_of_scanFile h
  obtain ⟨lines, seed, raws, found, hfound, hfindings⟩ := exists_aggregate_of_inspect hinspect
  have hissues : inspection.findings.map Finding.issue =
      (found.map Finding.subject).map (Prod.mk (some path.toString)) := by
    rw [hfindings, List.map_map, List.map_map]
    exact List.map_congr_left fun finding _ => ScanOptions.issue_completed rfl catalog finding
  have hsublist : inspection.report.issues.Sublist
      ((found.map Finding.subject).map (Prod.mk (some path.toString))) := by
    rw [← hissues]
    exact List.filter_sublist.map _
  refine ⟨⟨_, rfl⟩, ?_, fun issue hissue => ?_⟩
  · have hsubjects := nodup_subjects_of_pairwise (pairwise_of_aggregate hfound)
    exact (hsubjects.map (Prod.mk_right_injective _)).sublist hsublist
  · obtain ⟨subject, -, rfl⟩ := List.mem_map.1 (hsublist.subset hissue)
    rfl

/-! ## Several files -/

/-- The reports on the files that can be scanned. -/
def reportsOn (catalog : Catalog) (workspace : Workspace) (options : FileScanOptions)
    (paths : List Path) : List Report :=
  paths.filterMap fun path => (catalog.scanFile workspace path options).toOption

theorem reportsOn_eq {paths : List Path} {reports : List Report}
    (h : (paths.filter (catalog.isReported workspace options)).map
      (catalog.scanFile workspace · options) = reports.map .ok) :
    catalog.reportsOn workspace options paths = reports := by
  -- what is not reported gives nothing anyway
  have hskipped : ∀ path ∈ paths, (catalog.scanFile workspace path options).toOption =
      if catalog.isReported workspace options path then
        (catalog.scanFile workspace path options).toOption else none := by
    intro path _
    have herror : ∀ fault, catalog.inspectFile workspace path options = .error fault →
        (catalog.scanFile workspace path options).toOption = none := by
      intro fault hinspected
      rw [scanFile, hinspected]
      rfl
    cases catalog.fileFate workspace options path with
    | scanned hvalid hsound hnameable hinspected =>
      rw [isReported, Workspace.isScannable, hvalid, namingFault?_of_ok hinspected]
      rfl
    | unnamed hvalid hsound hunnameable hmem hnone hinspected
    | misread hinvalid hmisreading hinspected
    | passed hinvalid hsound hinspected hother => rw [herror _ hinspected, ite_self]
  calc catalog.reportsOn workspace options paths
      = ((paths.filter (catalog.isReported workspace options)).map
          (catalog.scanFile workspace · options)).filterMap Except.toOption := by
        rw [reportsOn, List.filterMap_map, List.filterMap_filter]
        exact List.filterMap_congr hskipped
    _ = reports := by
        rw [h, List.filterMap_map]
        exact List.filterMap_some

theorem strictFault?_eq_none_iff {path : Path} :
    catalog.strictFault? workspace options path = none ↔
      workspace.misreading? options path = none ∧
        catalog.namingFault? workspace options path = none := by
  simp [strictFault?]

/-- A run gives a report where its search reaches its end, no rule that cannot be named hits and, if
it is strict, all files that it looks into are valid text; this merges the reports on the files that
can be scanned. -/
theorem survey_eq_ok_iff {options : SurveyOptions} {harvest : Harvest} {report : Report} :
    (catalog.survey workspace options harvest).result = .ok report ↔
      harvest.stop = none ∧
        (∀ path ∈ harvest.paths,
          (options.strict = true → workspace.misreading? options.scan path = none) ∧
            catalog.namingFault? workspace options.scan path = none) ∧
        report = Report.merge (catalog.reportsOn workspace options.scan harvest.paths) := by
  obtain ⟨scan, strict⟩ := options
  obtain ⟨reports, hreports, hlenient, hstrict⟩ :=
    surveyFiles_result catalog workspace scan harvest.paths
  rw [survey_result, reportsOn_eq hreports]
  cases strict with
  | false =>
    simp only [Bool.false_eq_true, false_implies, true_and]
    rw [hlenient, ← List.findSome?_eq_none_iff]
    cases harvest.paths.findSome? (catalog.namingFault? workspace scan) with
    | some fault => simp
    | none => cases harvest.stop <;> simp [eq_comm]
  | true =>
    simp only [true_implies, ← strictFault?_eq_none_iff]
    rw [hstrict, ← List.findSome?_eq_none_iff]
    cases harvest.paths.findSome? (catalog.strictFault? workspace scan) with
    | some fault => simp
    | none => cases harvest.stop <;> simp [eq_comm]

theorem exists_scanFile_of_mem_reportsOn {paths : List Path} {report : Report}
    (h : report ∈ catalog.reportsOn workspace options paths) :
    ∃ path ∈ paths, catalog.scanFile workspace path options = .ok report := by
  obtain ⟨path, hpath, hreport⟩ := List.mem_filterMap.1 h
  exact ⟨path, hpath, toOption_eq_some.1 hreport⟩

theorem issues_merge_reportsOn (paths : List Path) :
    (Report.merge (catalog.reportsOn workspace options paths)).issues =
      (catalog.reportsOn workspace options paths).flatMap Report.issues :=
  Report.issues_merge fun _ h =>
    let ⟨_, _, hscan⟩ := exists_scanFile_of_mem_reportsOn h
    (issues_of_scanFile hscan).1

theorem exists_path_of_mem_issues {paths : List Path} {issue : Option String × WideText × Int}
    (h : issue ∈ (Report.merge (catalog.reportsOn workspace options paths)).issues) :
    ∃ path ∈ paths, issue.1 = some path.toString := by
  rw [issues_merge_reportsOn] at h
  obtain ⟨report, hreport, hissue⟩ := List.mem_flatMap.1 h
  obtain ⟨path, hpath, hscan⟩ := exists_scanFile_of_mem_reportsOn hreport
  exact ⟨path, hpath, (issues_of_scanFile hscan).2.2 issue hissue⟩

/-- Files that are taken once each repeat no issue. -/
theorem nodup_issues_reportsOn {paths : List Path} (hpaths : paths.Nodup)
    (hproper : ∀ path ∈ paths, path.IsProper) :
    (Report.merge (catalog.reportsOn workspace options paths)).issues.Nodup := by
  rw [issues_merge_reportsOn, List.nodup_flatMap]
  refine ⟨fun report hreport => ?_, List.pairwise_filterMap.2 (hpaths.imp_of_mem ?_)⟩
  · obtain ⟨path, -, hscan⟩ := exists_scanFile_of_mem_reportsOn hreport
    exact (issues_of_scanFile hscan).2.1
  · intro a b ha hb hne report hreport other hother issue hissue hissue'
    have hfile := (issues_of_scanFile (toOption_eq_some.1 hreport)).2.2 issue hissue
    have hfile' := (issues_of_scanFile (toOption_eq_some.1 hother)).2.2 issue hissue'
    exact hne ((hproper a ha).eq_of_toString_eq (hproper b hb)
      (Option.some.inj (hfile.symm.trans hfile')))

/-! ## Roots -/

/-- The run over the files of some roots. -/
def surveyRoots (catalog : Catalog) (workspace : Workspace) (options : SurveyOptions)
    (extensions roots : List String) : Except SurveyFault Report :=
  (catalog.survey workspace options
    (workspace.filesAtRoots extensions (roots.map Path.ofString))).result

/-- What a root gives when it is the only one. -/
def reportAt (catalog : Catalog) (workspace : Workspace) (options : FileScanOptions)
    (extensions : List String) (root : String) : Report :=
  Report.merge <| catalog.reportsOn workspace options
    (workspace.filesAt (extensions.map Text.lowercase) (.ofString root)).paths

/-- A run over several roots merges what each of them gives alone. -/
theorem surveyRoots_eq_ok {options : SurveyOptions} {extensions roots : List String}
    {report : Report} (h : catalog.surveyRoots workspace options extensions roots = .ok report) :
    report = Report.merge (roots.map (catalog.reportAt workspace options.scan extensions)) ∧
      ∀ root ∈ roots, catalog.surveyRoots workspace options extensions [root] =
        .ok (catalog.reportAt workspace options.scan extensions root) := by
  obtain ⟨hstop, hfiles, rfl⟩ := survey_eq_ok_iff.1 h
  have hpaths := Workspace.paths_filesFrom hstop
  have hstops := Workspace.stop_filesFrom.1 hstop
  refine ⟨?_, fun root hroot => survey_eq_ok_iff.2 ?_⟩
  · rw [Workspace.filesAtRoots, hpaths, reportsOn, List.filterMap_flatMap, List.flatMap_map,
      List.flatMap_def, ← Report.merge_map_merge, List.map_map]
    rfl
  · have hroot : Path.ofString root ∈ roots.map Path.ofString := List.mem_map_of_mem hroot
    rw [Workspace.filesAtRoots, List.map_singleton, Workspace.filesFrom_singleton]
    refine ⟨Workspace.stop_filesAt.2 (hstops _ hroot), fun path hpath => ?_, rfl⟩
    exact hfiles path (hpaths ▸ List.mem_flatMap.2 ⟨_, hroot, hpath⟩)

theorem nodup_issues_reportAt (htree : workspace.tree.IsProper) (extensions : List String)
    (root : String) : (catalog.reportAt workspace options extensions root).issues.Nodup :=
  nodup_issues_reportsOn (Workspace.nodup_filesAt htree) fun _ h =>
    Workspace.isProper_of_mem_filesAt htree (Path.isProper_ofString root) h

/-- Roots that are apart share no issue. -/
theorem disjoint_issues_reportAt (htree : workspace.tree.IsProper) (extensions : List String)
    {root other : String} (hapart : (Path.ofString root).Apart (.ofString other)) :
    (catalog.reportAt workspace options extensions root).issues.Disjoint
      (catalog.reportAt workspace options extensions other).issues := by
  intro issue hissue hissue'
  obtain ⟨path, hpath, hfile⟩ := exists_path_of_mem_issues hissue
  obtain ⟨path', hpath', hfile'⟩ := exists_path_of_mem_issues hissue'
  have hproper := Workspace.isProper_of_mem_filesAt htree (Path.isProper_ofString root) hpath
  have hproper' := Workspace.isProper_of_mem_filesAt htree (Path.isProper_ofString other) hpath'
  have hsame : path = path' :=
    hproper.eq_of_toString_eq hproper' (Option.some.inj (hfile.symm.trans hfile'))
  obtain ⟨names, rfl, -⟩ := Workspace.exists_below_of_mem_filesAt htree hpath
  obtain ⟨names', rfl, -⟩ := Workspace.exists_below_of_mem_filesAt htree hpath'
  exact hapart.below_ne names names' hsame

/-! ## The law -/

/-- The report of a run over several roots merges what a run over each of them alone reports. An
issue stands in it once for each root that reports it alone. So where no root is at another one or
below it, no issue is repeated, and each count is that of the distinct issues of a severity. -/
theorem an_issue_counts_once_for_each_root_that_reports_it (catalog : Catalog)
    (workspace : Workspace) (options : SurveyOptions) (extensions roots : List String)
    (report : Report) (htree : workspace.tree.IsProper)
    (h : catalog.surveyRoots workspace options extensions roots = .ok report) :
    ∃ alone : List Report,
      roots.map (catalog.surveyRoots workspace options extensions [·]) = alone.map .ok ∧
        report = Report.merge alone ∧
        (∀ issue, report.issues.count issue = alone.countP (issue ∈ ·.issues)) ∧
        ((roots.map Path.ofString).Pairwise Path.Apart →
          report.issues.Nodup ∧ ∀ severity,
            report.summary.count severity =
              ((report.findings.filter (·.severity = severity)).map
                Finding.issue).dedup.length) := by
  obtain ⟨rfl, hroots⟩ := surveyRoots_eq_ok h
  have hassembled : ∀ part ∈ roots.map (catalog.reportAt workspace options.scan extensions),
      part.Assembled := List.forall_mem_map.2 fun _ _ => Report.merge_assembled _
  have hnodup : ∀ part ∈ roots.map (catalog.reportAt workspace options.scan extensions),
      part.issues.Nodup := List.forall_mem_map.2 fun root _ => nodup_issues_reportAt htree _ root
  refine ⟨_, ?_, rfl, fun issue => ?_, fun hapart => ?_⟩
  · rw [List.map_map]
    exact List.map_congr_left hroots
  · rw [Report.issues_merge hassembled, count_flatMap_of_nodup hnodup]
  · have hissues : (Report.merge
        (roots.map (catalog.reportAt workspace options.scan extensions))).issues.Nodup := by
      rw [Report.issues_merge hassembled, List.nodup_flatMap, List.pairwise_map]
      exact ⟨hnodup, (List.pairwise_map.1 hapart).imp (disjoint_issues_reportAt htree extensions)⟩
    exact ⟨hissues, (Report.merge_assembled _).count_eq_of_nodup hissues⟩

/-- A file, and a directory with another one. -/
def fileAndDirectory : Workspace where
  tree := .directory {} [("a.py", .file [33]), ("b", .directory {} [("c.py", .file [33])])]
  here := []

theorem fileAndDirectory_isProper : fileAndDirectory.tree.IsProper := by
  refine .directory _ _ (by decide) (by decide) ?_
  simp only [List.forall_mem_cons]
  refine ⟨.file _, .directory _ _ (by decide) (by decide) ?_, by simp⟩
  simpa using .file _

theorem issues_of_a_file_and_a_directory_count_once :
    ∃ report, fileAndDirectory.tree.IsProper ∧
      small.surveyRoots fileAndDirectory {} [".py"] ["./a.py", "b/"] = .ok report ∧
      report.issues =
        [(some "a.py", .ofString "bang", 1), (some "b/c.py", .ofString "bang", 1)] ∧
      report.issues.Nodup := by
  have hissues : (small.surveyRoots fileAndDirectory {} [".py"] ["./a.py", "b/"]).map
      Report.issues = .ok [(some "a.py", "bang", 1), (some "b/c.py", "bang", 1)] := by
    decide +kernel
  cases hreport : small.surveyRoots fileAndDirectory {} [".py"] ["./a.py", "b/"] with
  | error fault =>
    rw [hreport] at hissues
    cases hissues
  | ok report =>
    rw [hreport] at hissues
    obtain ⟨-, -, -, -, hapart⟩ := an_issue_counts_once_for_each_root_that_reports_it small
      fileAndDirectory {} [".py"] ["./a.py", "b/"] report fileAndDirectory_isProper hreport
    exact ⟨report, fileAndDirectory_isProper, rfl, Except.ok.inj hissues,
      (hapart (by decide +kernel)).1⟩

/-- A file that is named twice counts twice, and so does one that lies below another root. So it is
not the case that no run repeats an issue. -/
theorem repeated_and_nested_roots_count_issues_twice :
    fileAndDirectory.tree.IsProper ∧
      ((small.surveyRoots fileAndDirectory {} [".py"] ["a.py", "./a.py"]).map fun report =>
        (report.issues, report.summary)) =
          .ok ([(some "a.py", "bang", 1), (some "a.py", "bang", 1)], { high := 2 }) ∧
      ((small.surveyRoots fileAndDirectory {} [".py"] ["b", "b/c.py"]).map fun report =>
        (report.issues, report.summary)) =
          .ok ([(some "b/c.py", "bang", 1), (some "b/c.py", "bang", 1)], { high := 2 }) ∧
      ¬∀ (roots : List String) (report : Report),
        small.surveyRoots fileAndDirectory {} [".py"] roots = .ok report →
          report.issues.Nodup := by
  have htwice : ((small.surveyRoots fileAndDirectory {} [".py"] ["a.py", "./a.py"]).map
      fun report => (report.issues, report.summary)) =
        .ok ([(some "a.py", "bang", 1), (some "a.py", "bang", 1)], { high := 2 }) := by
    decide +kernel
  refine ⟨fileAndDirectory_isProper, htwice, by decide +kernel, fun h => ?_⟩
  cases hreport : small.surveyRoots fileAndDirectory {} [".py"] ["a.py", "./a.py"] with
  | error fault =>
    rw [hreport] at htwice
    cases htwice
  | ok report =>
    rw [hreport] at htwice
    have hissues := congrArg Prod.fst (Except.ok.inj htwice)
    have hnodup := h _ report hreport
    rw [show report.issues = _ from hissues] at hnodup
    simp at hnodup

end Catalog

end SourceAudit
