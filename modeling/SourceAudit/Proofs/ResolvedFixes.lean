-- What to do about findings. Each gets a text that is not blank: that of the template of its own
-- rule, or of the one for its type, or the general checklist. Attaching it changes nothing else,
-- and in a scan each finding gets what its own rule has to say.

import SourceAudit.Proofs.CatalogIndexes
import SourceAudit.Proofs.Reported

namespace SourceAudit

/-! ## Texts put together -/

namespace WideText

/-- What is put together of several texts begins with the first of them. -/
theorem exists_intercalate_cons_eq (separator first : WideText) (rest : List WideText) :
    ∃ behind, intercalate separator (first :: rest) = first ++ behind := by
  cases rest with
  | nil =>
    refine ⟨⟨[]⟩, congrArg mk ?_⟩
    rw [List.map_cons, List.map_nil, List.intercalate_singleton, List.append_nil]
  | cons second others => exact ⟨_, intercalate_cons_cons separator first second others⟩

theorem blank_intercalate_cons {first : WideText} (h : first.blank = false) (separator : WideText)
    (rest : List WideText) : (intercalate separator (first :: rest)).blank = false := by
  obtain ⟨behind, heq⟩ := exists_intercalate_cons_eq separator first rest
  unfold blank at h ⊢
  rw [heq, points_append, List.all_append, h, Bool.false_and]

end WideText

/-- The text of a template begins with its rationale. -/
theorem FixTemplate.exists_render_eq (template : FixTemplate) (code : String) :
    ∃ behind, template.render code = template.rationale ++ behind :=
  WideText.exists_intercalate_cons_eq _ _ _

theorem blank_genericFix : genericFix.blank = false :=
  WideText.blank_intercalate_cons (by decide +kernel) _ _

/-- The finding as it is without a fix. -/
def Finding.withoutFix (finding : Finding) : Finding :=
  { finding with suggestedFix := none }

/-! ## The template of a finding -/

namespace Catalog

variable {catalog : Catalog}

/-- The catalog selects a template for a finding: that of the finding's rule, if the catalog has
the rule and the finding is of its type, or else the one for the finding's type. -/
inductive Selects (catalog : Catalog) (finding : Finding) : FixTemplate → Prop
  | own {rule : Rule} :
      rule ∈ catalog.rules → rule.id = finding.rule → rule.type = finding.type →
        Selects catalog finding rule.fix
  | forType {template : FixTemplate} :
      (∀ rule ∈ catalog.rules, rule.id = finding.rule → rule.type ≠ finding.type) →
        catalog.fixFor? finding.type = some template → Selects catalog finding template

/-- The rule that is looked up for a finding is the one that it names. A finding that names no rule
has none, since no identifier is blank. -/
theorem Built.ruleNamed_eq_some_iff (h : catalog.Built) {id : WideText} {rule : Rule} :
    (if id.isEmpty then none else catalog.get? id) = some rule ↔
      rule ∈ catalog.rules ∧ rule.id = id := by
  split
  · next hempty =>
    simp only [reduceCtorEq, false_iff, not_and]
    rintro hrule rfl
    have hstated := (h.isStatedRule rule hrule).1
    rw [WideText.eq_empty_iff.1 hempty] at hstated
    cases hstated
  · exact get?_eq_some_iff h.nodup_ids

theorem Built.templateFor?_eq_some_iff (h : catalog.Built) {finding : Finding}
    {template : FixTemplate} :
    catalog.templateFor? finding = some template ↔ catalog.Selects finding template := by
  unfold templateFor?
  dsimp only
  split
  · next rule hnamed =>
    obtain ⟨hrule, hid⟩ := h.ruleNamed_eq_some_iff.1 hnamed
    split
    · next htype =>
      rw [Option.some.injEq]
      constructor
      · rintro rfl
        exact .own hrule hid htype
      · rintro (⟨hother, hid', -⟩ | ⟨hnone, -⟩)
        · rw [rule_eq_of_id_eq h.nodup_ids hrule hother (hid.trans hid'.symm)]
        · exact absurd htype (hnone rule hrule hid)
    · next htype =>
      constructor
      · refine .forType fun other hother hid' => ?_
        rwa [rule_eq_of_id_eq h.nodup_ids hother hrule (hid'.trans hid.symm)]
      · rintro (⟨hother, hid', htype'⟩ | ⟨-, hfix⟩)
        · rw [rule_eq_of_id_eq h.nodup_ids hother hrule (hid'.trans hid.symm)] at htype'
          exact absurd htype' htype
        · exact hfix
  · next hnamed =>
    have hnone : ∀ rule ∈ catalog.rules, rule.id ≠ finding.rule := by
      intro rule hrule hid
      rw [h.ruleNamed_eq_some_iff.2 ⟨hrule, hid⟩] at hnamed
      cases hnamed
    constructor
    · exact .forType fun rule hrule hid => absurd hid (hnone rule hrule)
    · rintro (⟨hrule, hid, -⟩ | ⟨-, hfix⟩)
      · exact absurd hid (hnone _ hrule)
      · exact hfix

theorem Selects.rationale (h : catalog.Built) {finding : Finding} {template : FixTemplate}
    (hselects : catalog.Selects finding template) : template.rationale.blank = false := by
  rcases hselects with ⟨hrule, -, -⟩ | ⟨-, hfix⟩
  · exact (h.isStatedRule _ hrule).2
  · exact h.rationale_fixes _ (mem_of_lookup hfix)

theorem fixText_of_selects (h : catalog.Built) {finding : Finding} {template : FixTemplate}
    (hselects : catalog.Selects finding template) :
    catalog.fixText finding = template.render finding.matchedCode := by
  rw [fixText, h.templateFor?_eq_some_iff.2 hselects]

theorem fixText_of_not_selects (h : catalog.Built) {finding : Finding}
    (hnone : ∀ template, ¬ catalog.Selects finding template) :
    catalog.fixText finding = genericFix := by
  have htemplate : catalog.templateFor? finding = none := by
    rw [Option.eq_none_iff_forall_ne_some]
    exact fun template hsome => hnone template (h.templateFor?_eq_some_iff.1 hsome)
  rw [fixText, htemplate]

/-- No finding is left without advice. -/
theorem blank_fixText (h : catalog.Built) (finding : Finding) :
    (catalog.fixText finding).blank = false := by
  by_cases hselects : ∃ template, catalog.Selects finding template
  · obtain ⟨template, hselects⟩ := hselects
    rw [fixText_of_selects h hselects]
    exact WideText.blank_intercalate_cons (hselects.rationale h) _ _
  · rw [fixText_of_not_selects h (not_exists.1 hselects)]
    exact blank_genericFix

/-! ## Fixes in a scan -/

/-- The finding with what its own rule has to say about it. -/
def withOwnFix (catalog : Catalog) (finding : Finding) : Finding :=
  { finding with
    suggestedFix := (catalog.get? finding.rule).map (·.fix.render finding.matchedCode) }

/-- The report with what their own rules have to say about its findings. -/
def withOwnFixes (catalog : Catalog) (report : Report) : Report :=
  { report with findings := report.findings.map catalog.withOwnFix }

/-- Where a finding is of its rule's type, the fix attached to it is that of the rule. -/
theorem attachFix_eq_withOwnFix (h : catalog.Built) {finding : Finding} {rule : Rule}
    (hrule : rule ∈ catalog.rules) (hid : rule.id = finding.rule)
    (htype : rule.type = finding.type) :
    catalog.attachFix finding = catalog.withOwnFix finding := by
  unfold attachFix withOwnFix
  rw [fixText_of_selects h (.own hrule hid htype), ← hid, get?_of_mem h.nodup_ids hrule]
  rfl

/-- With or without fixes, a scan reports the same findings but for their fixes. -/
theorem reported_resolveFixes (h : catalog.Built) (text : String) (language : Language)
    (options : ScanOptions) :
    catalog.reported text language { options with resolveFixes := true } =
      (catalog.reported text language { options with resolveFixes := false }).map
        catalog.withOwnFix := by
  unfold reported
  rw [List.map_map]
  refine List.map_congr_left fun finding hfinding => ?_
  obtain ⟨site, hsite, n, rfl⟩ := Site.mem_findings hfinding
  have hrule := (mem_reportedRules.1 (Site.mem_inLines.1 hsite).1).1
  unfold ScanOptions.completed
  cases options.file with
  | none => exact attachFix_eq_withOwnFix h hrule rfl rfl
  | some file => exact attachFix_eq_withOwnFix h hrule rfl rfl

end Catalog

/-- Fixes do not count. -/
theorem Summary.ofFindings_withOwnFix (catalog : Catalog) (findings : List Finding) :
    ofFindings (findings.map catalog.withOwnFix) = ofFindings findings := by
  unfold ofFindings
  rw [List.foldl_map]
  rfl

namespace Catalog

variable {catalog : Catalog}

theorem scan_resolveFixes (h : catalog.Built) (source : Source) (language : Language)
    (options : ScanOptions) :
    catalog.scan source language { options with resolveFixes := true } =
      (catalog.scan source language { options with resolveFixes := false }).map
        catalog.withOwnFixes := by
  cases hdecode : source.decode with
  | error fault =>
    unfold scan inspect
    rw [hdecode]
    rfl
  | ok text =>
    rw [scan_eq h.nodup_ids hdecode, scan_eq h.nodup_ids hdecode]
    cases catalog.unnamedSite? language text with
    | some site => rfl
    | none =>
      rw [reportOn, reported_resolveFixes h, Summary.ofFindings_withOwnFix]
      rfl

/-- A reported finding is one of a rule of the catalog, and the rule has something to say. -/
theorem withOwnFix_of_mem_reported (h : catalog.Built) {text : String} {language : Language}
    {options : ScanOptions} {finding : Finding}
    (hfinding : finding ∈ catalog.reported text language options) :
    ∃ rule ∈ catalog.rules, rule.id = finding.rule ∧
      catalog.withOwnFix finding =
        { finding with suggestedFix := some (rule.fix.render finding.matchedCode) } := by
  obtain ⟨site, hsite, seed, n, rfl⟩ := mem_reported hfinding
  have hrule := (mem_reportedRules.1 (Site.mem_inLines.1 hsite).1).1
  have hid : site.rule.id = (options.completed catalog (site.finding seed n)).rule := by
    rw [ScanOptions.completed_rule, Site.finding_rule]
  refine ⟨site.rule, hrule, hid, ?_⟩
  rw [withOwnFix, ← hid, get?_of_mem h.nodup_ids hrule]
  rfl

/-! ## The law -/

/-- Every finding, whatever it holds, gets a text that is not blank. It is that of the template
selected for it and begins with the template's rationale; the checklist is for findings that name
no rule of their type and whose type has no template. Attaching fixes changes only the fixes, and
once is enough. A scan with fixes is the scan without them, each finding with the text of its own
rule's template added; it gives a report unless a rule that cannot be named hits. -/
theorem each_finding_gets_the_fix_of_its_rule_or_type (hbuilt : catalog.Built) :
    (∀ finding : Finding,
      (catalog.fixText finding).blank = false ∧
      (∀ template, catalog.Selects finding template →
        catalog.fixText finding = template.render finding.matchedCode ∧
          ∃ behind, catalog.fixText finding = template.rationale ++ behind) ∧
      ((∀ rule ∈ catalog.rules, rule.id = finding.rule → rule.type ≠ finding.type) →
        catalog.fixFor? finding.type = none → catalog.fixText finding = genericFix)) ∧
    (∀ findings : List Finding,
      (catalog.attachFixes findings).map Finding.withoutFix = findings.map Finding.withoutFix ∧
      (catalog.attachFixes findings).map (·.suggestedFix) =
        findings.map (some <| catalog.fixText ·) ∧
      catalog.attachFixes (catalog.attachFixes findings) = catalog.attachFixes findings) ∧
    (∀ (source : Source) (language : Language) (options : ScanOptions),
      catalog.scan source language { options with resolveFixes := true } =
        (catalog.scan source language { options with resolveFixes := false }).map
          catalog.withOwnFixes) ∧
    ∀ (source : Source) text (language : Language) (options : ScanOptions),
      source.decode = .ok text →
      ((∃ plain, catalog.scan source language { options with resolveFixes := false } = .ok plain) ↔
        catalog.Nameable language text) ∧
      ∀ plain, catalog.scan source language { options with resolveFixes := false } = .ok plain →
        ∀ finding ∈ plain.findings, ∃ rule ∈ catalog.rules, rule.id = finding.rule ∧
          catalog.withOwnFix finding =
            { finding with suggestedFix := some (rule.fix.render finding.matchedCode) } := by
  refine ⟨fun finding => ⟨blank_fixText hbuilt finding, fun template hselects => ?_,
    fun hown htype => ?_⟩, fun findings => ⟨?_, ?_, ?_⟩, scan_resolveFixes hbuilt,
    fun source text language options hdecode => ?_⟩
  · have htext := fixText_of_selects hbuilt hselects
    rw [htext]
    exact ⟨rfl, template.exists_render_eq _⟩
  · refine fixText_of_not_selects hbuilt ?_
    rintro _ (⟨hrule, hid, hsame⟩ | ⟨-, hfix⟩)
    · exact hown _ hrule hid hsame
    · rw [htype] at hfix
      cases hfix
  · rw [attachFixes, List.map_map]
    rfl
  · rw [attachFixes, List.map_map]
    rfl
  · rw [attachFixes, attachFixes, List.map_map]
    rfl
  · refine ⟨exists_scan_eq_ok_iff hbuilt.nodup_ids hdecode, fun plain hplain finding hfinding => ?_⟩
    obtain ⟨-, rfl⟩ := (scan_eq_ok_iff hbuilt.nodup_ids hdecode).1 hplain
    exact withOwnFix_of_mem_reported hbuilt hfinding

/-- A finding that goes by the name of a rule and is of a type. -/
def namedFinding (rule type : String) : Finding where
  id := "x"
  rule := rule
  type := type
  severity := .low
  location := ⟨1, none, none⟩
  description := ""
  matchedCode := "!"

/-- A finding of another type than the rule it names, one of which nothing is known, and a scan in
which two rules hit one line. -/
theorem findings_of_small_get_the_fix_of_their_rule_or_type :
    small.Built ∧
    (∃ behind, small.fixText (namedFinding "quiet" "Bang") = "Keep it quiet." ++ behind) ∧
    small.fixText (namedFinding "" "Clatter") = genericFix ∧
    small.scan (.ofString "b!") .go {} =
      (small.scan (.ofString "b!") .go { resolveFixes := false }).map small.withOwnFixes := by
  obtain ⟨hfindings, -, hscans, -⟩ := each_finding_gets_the_fix_of_its_rule_or_type small_built
  refine ⟨small_built, ?_, ?_, hscans (.ofString "b!") .go {}⟩
  · have hselects : small.Selects (namedFinding "quiet" "Bang") ⟨"Keep it quiet.", "", ""⟩ :=
      .forType (by decide +kernel) (by decide +kernel)
    exact ((hfindings _).2.1 _ hselects).2
  · exact (hfindings _).2.2 (by decide +kernel) (by decide +kernel)

end Catalog

end SourceAudit
