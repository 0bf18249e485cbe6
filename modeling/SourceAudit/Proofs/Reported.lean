-- The report of a scan in closed form: its findings are those at the sites of the reported rules,
-- completed one by one. There is no report where a rule with surrogates in its identifier hits. All
-- laws of scans start here.

import SourceAudit.Proofs.SiteFindings

namespace SourceAudit

/-! ## Texts as sources -/

/-- A text is read from its code points as it stands. -/
theorem Source.decode_ofString (text : String) : (Source.ofString text).decode = .ok text := by
  unfold ofString decode
  dsimp only
  rw [Text.readCodePoints_eq_ok_iff.2 rfl]
  exact congrArg Except.ok String.ofList_toList

/-! ## Completing findings -/

/-- A finding with its file and with what to do about it, as far as that is wanted. -/
def ScanOptions.completed (options : ScanOptions) (catalog : Catalog) (finding : Finding) :
    Finding :=
  let located := match options.file with
    | some file => finding.inFile file
    | none => finding
  if options.resolveFixes then catalog.attachFix located else located

theorem ScanOptions.complete_eq_map (options : ScanOptions) (catalog : Catalog)
    (findings : List Finding) :
    options.complete catalog findings = findings.map (options.completed catalog) := by
  unfold complete completed Catalog.attachFixes
  cases options.file <;> cases options.resolveFixes <;> simp

/-- What a finding is about: a rule and a line. -/
def Finding.subject (finding : Finding) : WideText × Int :=
  (finding.rule, finding.location.line)

section Completed

variable (options : ScanOptions) (catalog : Catalog) (finding : Finding)

/-- Completing a finding changes its file and its fix, and nothing else. -/
theorem ScanOptions.completed_eq : ∃ file fix,
    options.completed catalog finding =
      { finding with location := { finding.location with file := file }, suggestedFix := fix } := by
  unfold completed
  cases options.file <;> cases options.resolveFixes <;> exact ⟨_, _, rfl⟩

@[simp] theorem ScanOptions.completed_type :
    (options.completed catalog finding).type = finding.type := by
  obtain ⟨file, fix, h⟩ := options.completed_eq catalog finding
  rw [h]

@[simp] theorem ScanOptions.completed_rule :
    (options.completed catalog finding).rule = finding.rule := by
  obtain ⟨file, fix, h⟩ := options.completed_eq catalog finding
  rw [h]

@[simp] theorem ScanOptions.completed_subject :
    (options.completed catalog finding).subject = finding.subject := by
  obtain ⟨file, fix, h⟩ := options.completed_eq catalog finding
  rw [h]
  rfl

end Completed

/-! ## The report -/

namespace Catalog

/-- The rules for a language whose findings are reported. -/
def reportedRules (catalog : Catalog) (language : Language) : List Rule :=
  (catalog.rulesFor language).filter fun rule => !(rule.type == Finding.noIssuesType)

/-- The findings that are reported for a text. -/
def reported (catalog : Catalog) (text : String) (language : Language) (options : ScanOptions) :
    List Finding :=
  (Site.findings (options.seedFor language text) []
      (Site.inLines (catalog.reportedRules language) 1 (Text.lines text))).map
    (options.completed catalog)

variable {catalog : Catalog}

theorem mem_reportedRules {language : Language} {rule : Rule} :
    rule ∈ catalog.reportedRules language ↔
      rule ∈ catalog.rules ∧ rule.appliesTo language = true ∧ rule.type ≠ Finding.noIssuesType := by
  simp only [reportedRules, rulesFor, List.mem_filter, Bool.not_eq_true', beq_eq_false_iff_ne,
    and_assoc]

/-- All rules that hit in some line of a text can be named: their identifiers have no surrogates. -/
def Nameable (catalog : Catalog) (language : Language) (text : String) : Prop :=
  ∀ rule ∈ catalog.rules, rule.appliesTo language = true → ∀ line ∈ Text.lines text,
    rule.hitsIn line ≠ [] → ∃ id : String, rule.id = id

/-- Where all identifiers are texts of characters, all rules can be named. -/
theorem nameable_of_texts (h : ∀ rule ∈ catalog.rules, ∃ id : String, rule.id = id)
    (language : Language) (text : String) : catalog.Nameable language text :=
  fun rule hrule _ _ _ _ => h rule hrule

/-- The first place in a text where a rule hits that cannot be named. -/
def unnamedSite? (catalog : Catalog) (language : Language) (text : String) : Option Site :=
  (Site.inLines (catalog.rulesFor language) 1 (Text.lines text)).find? (!·.isNamed)

/-- The report that a scan of a text gives, if it gives one. -/
def reportOn (catalog : Catalog) (text : String) (language : Language) (options : ScanOptions) :
    Report :=
  ⟨Summary.ofFindings (catalog.reported text language options),
    catalog.reported text language options⟩

/-- A scan of what can be decoded gives a report, with the reported findings and their counts,
unless a rule that cannot be named hits; the first such place is what it fails for. -/
theorem scan_eq (hids : catalog.ids.Nodup) {source : Source} {text : String}
    (hdecode : source.decode = .ok text) (language : Language) (options : ScanOptions) :
    catalog.scan source language options =
      match catalog.unnamedSite? language text with
      | some site => .error (.aggregate (.unencodable site.rule.id))
      | none => .ok (catalog.reportOn text language options) := by
  have hkept : ((Site.findings (options.seedFor language text) []
      (Site.inLines (catalog.rulesFor language) 1 (Text.lines text))).map
        (options.completed catalog)).filter (!·.isPlaceholder) =
      catalog.reported text language options := by
    rw [List.filter_map]
    unfold reported reportedRules
    rw [← Site.inLines_filter]
    congr 1
    apply Site.findings_filter fun rule => !(rule.type == Finding.noIssuesType)
    · intro site n
      simp [Finding.isPlaceholder]
    · exact site_rule_eq hids fun _ h => (List.mem_filter.1 h).1
    · exact fun _ _ _ => rfl
  unfold scan inspect findingsIn
  rw [hdecode]
  dsimp only
  rw [aggregate_matchesInLines hids]
  unfold Site.outcome unnamedSite?
  cases (Site.inLines (catalog.rulesFor language) 1 (Text.lines text)).find? (!·.isNamed) with
  | some site => rfl
  | none =>
    simp only [bind, Except.bind, pure, Except.pure, Except.map, Inspection.report, Report.assemble,
      ScanOptions.complete_eq_map, hkept, reportOn]

theorem unnamedSite?_eq_none_iff {language : Language} {text : String} :
    catalog.unnamedSite? language text = none ↔ catalog.Nameable language text := by
  simp only [unnamedSite?, List.find?_eq_none, Bool.not_eq_true', Bool.not_eq_false, Nameable,
    Site.isNamed, Option.isSome_iff_exists, WideText.text?_eq_some_iff]
  constructor
  · intro h rule hrule happlies line hline hhits
    obtain ⟨i, hi⟩ := List.mem_iff_getElem?.1 hline
    obtain ⟨hit, rest, hfirst⟩ := List.exists_cons_of_ne_nil hhits
    refine h ⟨rule, 1 + i, line, hit⟩ (Site.mem_inLines.2 ⟨?_, by simp [hfirst], i, hi, rfl⟩)
    exact List.mem_filter.2 ⟨hrule, happlies⟩
  · intro h site hsite
    obtain ⟨hrule, hhit, i, hline, -⟩ := Site.mem_inLines.1 hsite
    obtain ⟨hmem, happlies⟩ := List.mem_filter.1 hrule
    exact h site.rule hmem happlies site.line (List.mem_of_getElem? hline)
      fun hnil => by simp [hnil] at hhit

section Scanned

variable (hids : catalog.ids.Nodup) {source : Source} {text : String}
  (hdecode : source.decode = .ok text) {language : Language} {options : ScanOptions}
include hids hdecode

theorem scan_eq_ok_iff {report : Report} :
    catalog.scan source language options = .ok report ↔
      catalog.Nameable language text ∧ report = catalog.reportOn text language options := by
  rw [scan_eq hids hdecode, ← unnamedSite?_eq_none_iff]
  cases catalog.unnamedSite? language text <;> simp [eq_comm]

theorem exists_scan_eq_ok_iff :
    (∃ report, catalog.scan source language options = .ok report) ↔
      catalog.Nameable language text := by
  simp [scan_eq_ok_iff hids hdecode]

theorem scan_eq_error_iff {fault : ScanFault} :
    catalog.scan source language options = .error fault ↔
      ∃ site, catalog.unnamedSite? language text = some site ∧
        fault = .aggregate (.unencodable site.rule.id) := by
  rw [scan_eq hids hdecode]
  cases catalog.unnamedSite? language text <;> simp [eq_comm]

end Scanned

/-- What does not depend on identifiers, files and fixes can be read off the sites. -/
theorem map_reported {α : Type} {view : Finding → α} {look : Site → α} {text : String}
    {language : Language} {options : ScanOptions}
    (h : ∀ (site : Site) seed n, view (options.completed catalog (site.finding seed n)) = look site) :
    (catalog.reported text language options).map view =
      (Site.inLines (catalog.reportedRules language) 1 (Text.lines text)).map look := by
  unfold reported
  rw [List.map_map]
  exact Site.map_findings (fun site n => h site _ n) [] _

theorem mem_reported {text : String} {language : Language} {options : ScanOptions} {f : Finding}
    (h : f ∈ catalog.reported text language options) :
    ∃ site ∈ Site.inLines (catalog.reportedRules language) 1 (Text.lines text),
      ∃ seed n, f = options.completed catalog (site.finding seed n) := by
  obtain ⟨g, hg, rfl⟩ := List.mem_map.1 h
  obtain ⟨site, hsite, n, rfl⟩ := Site.mem_findings hg
  exact ⟨site, hsite, _, n, rfl⟩

/-- Where all rules that hit can be named, so can those that are reported. -/
theorem exists_rule_of_mem_reported {text : String} {language : Language} {options : ScanOptions}
    (hnameable : catalog.Nameable language text) {f : Finding}
    (h : f ∈ catalog.reported text language options) : ∃ rule : String, f.rule = rule := by
  obtain ⟨site, hsite, seed, n, rfl⟩ := mem_reported h
  obtain ⟨hrule, hhit, i, hline, -⟩ := Site.mem_inLines.1 hsite
  obtain ⟨hmem, happlies, -⟩ := mem_reportedRules.1 hrule
  rw [ScanOptions.completed_rule, Site.finding_rule]
  exact hnameable site.rule hmem happlies site.line (List.mem_of_getElem? hline)
    fun hnil => by simp [hnil] at hhit

end Catalog

end SourceAudit
