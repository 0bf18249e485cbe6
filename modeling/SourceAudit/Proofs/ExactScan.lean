-- A scan is exact. Each rule is reported once for each line where it hits, with what the rule has
-- to say and the column of its first hit; nothing else is reported, and the findings come by line
-- and by the order of the rules. A scan of a text fails only where a rule without a name hits.

import SourceAudit.Proofs.Reported

namespace SourceAudit

/-! ## What a finding has to say -/

/-- A rule is to be reported for a line of a language: it holds for the language, it does not stand
for clean files, and it has a hit in the line that is not empty. -/
def Rule.Flags (rule : Rule) (language : Language) (line : String) : Prop :=
  rule.appliesTo language = true ∧ rule.type ≠ Finding.noIssuesType ∧ rule.hitsIn line ≠ []

/-- The finding tells of a rule on a line with a number: all it says is the rule's own, its column
is that of the first hit, and its code is the line without white space at the end. -/
structure Finding.Tells (finding : Finding) (rule : Rule) (number : Nat) (line : String) :
    Prop where
  rule_eq : finding.rule = rule.id
  type_eq : finding.type = rule.type
  severity_eq : finding.severity = rule.severity
  description_eq : finding.description = rule.description
  cwe_eq : finding.cwe = rule.cwe
  references_eq : finding.references = rule.references
  line_eq : finding.location.line = number
  column_eq : ∃ hit, (rule.hitsIn line).head? = some hit ∧ finding.location.column = some hit.start
  code_eq : finding.matchedCode = Text.trimEnd line

/-- One finding comes strictly before another: it is on an earlier line, or on the same line and
of an earlier rule. -/
def Catalog.Before (catalog : Catalog) (a b : Finding) : Prop :=
  a.location.line < b.location.line ∨
    a.location.line = b.location.line ∧
      ∃ p q, catalog.position? a.rule = some p ∧ catalog.position? b.rule = some q ∧ p < q

/-- The completed finding at a site tells of its rule and its line. -/
theorem Site.tells {site : Site} (hhit : (site.rule.hitsIn site.line).head? = some site.hit)
    (options : ScanOptions) (catalog : Catalog) (seed : String) (n : Nat) :
    (options.completed catalog (site.finding seed n)).Tells site.rule site.number site.line := by
  obtain ⟨file, fix, h⟩ := options.completed_eq catalog (site.finding seed n)
  rw [h]
  exact ⟨rfl, rfl, rfl, rfl, rfl, rfl, rfl, ⟨site.hit, hhit, rfl⟩, rfl⟩

namespace Catalog

variable {catalog : Catalog}

/-! ## The order of findings -/

/-- What the reported findings are about is what the sites are about. -/
theorem map_subject_reported (text : String) (language : Language) (options : ScanOptions) :
    (catalog.reported text language options).map Finding.subject =
      (Site.inLines (catalog.reportedRules language) 1 (Text.lines text)).map
        fun site => (site.rule.id, (site.number : Int)) := by
  apply map_reported
  intro site seed n
  rw [ScanOptions.completed_subject]
  rfl

theorem reported_pairwise (hids : catalog.ids.Nodup) (text : String) (language : Language)
    (options : ScanOptions) :
    (catalog.reported text language options).Pairwise catalog.Before := by
  have horder : (catalog.reportedRules language).Pairwise fun a b =>
      ∃ p q, catalog.position? a.id = some p ∧ catalog.position? b.id = some q ∧ p < q :=
    (rulesFor_pairwise hids language).filter _
  -- the order speaks of the subjects alone, and those are the ones of the sites
  have hsubjects : ((catalog.reported text language options).map Finding.subject).Pairwise
      fun a b => a.2 < b.2 ∨ a.2 = b.2 ∧
        ∃ p q, catalog.position? a.1 = some p ∧ catalog.position? b.1 = some q ∧ p < q := by
    rw [map_subject_reported, List.pairwise_map]
    refine (Site.inLines_pairwise horder 1 (Text.lines text)).imp ?_
    rintro a b (hlt | ⟨heq, hpq⟩)
    · exact Or.inl (by omega)
    · exact Or.inr ⟨by omega, hpq⟩
  rw [List.pairwise_map] at hsubjects
  exact hsubjects

/-- Findings in strict order are about different things. -/
theorem nodup_subjects_of_pairwise {findings : List Finding}
    (h : findings.Pairwise catalog.Before) : (findings.map Finding.subject).Nodup := by
  unfold List.Nodup
  rw [List.pairwise_map]
  refine h.imp ?_
  intro a b hab heq
  have hrule : a.rule = b.rule := congrArg Prod.fst heq
  have hline : a.location.line = b.location.line := congrArg Prod.snd heq
  rcases hab with hlt | ⟨_, p, q, hp, hq, hpq⟩
  · omega
  · rw [hrule, hq] at hp
    cases hp
    omega

/-- No two findings of a report are about the same rule and line. -/
theorem nodup_subjects_reported (hids : catalog.ids.Nodup) (text : String) (language : Language)
    (options : ScanOptions) :
    ((catalog.reported text language options).map Finding.subject).Nodup :=
  nodup_subjects_of_pairwise (reported_pairwise hids text language options)

/-! ## The law -/

/-- What is reported tells of rules that are to be reported for lines. -/
theorem tells_of_mem_reported {text : String} {language : Language} {options : ScanOptions}
    {finding : Finding} (hmem : finding ∈ catalog.reported text language options) :
    ∃ rule ∈ catalog.rules, ∃ i line, (Text.lines text)[i]? = some line ∧
      rule.Flags language line ∧ finding.Tells rule (i + 1) line := by
  obtain ⟨site, hsite, seed, n, rfl⟩ := mem_reported hmem
  obtain ⟨hrule, hhit, i, hline, hnumber⟩ := Site.mem_inLines.1 hsite
  obtain ⟨hmem, happlies, htype⟩ := mem_reportedRules.1 hrule
  have hsome : site.rule.hitsIn site.line ≠ [] := fun hnil => by simp [hnil] at hhit
  refine ⟨site.rule, hmem, i, site.line, hline, ⟨happlies, htype, hsome⟩, ?_⟩
  rw [Nat.add_comm i 1, ← hnumber]
  exact Site.tells hhit options catalog seed n

/-- A rule that is to be reported for a line is reported for it once. -/
theorem count_subjects_reported (hids : catalog.ids.Nodup) {text line : String}
    {language : Language} (options : ScanOptions) {rule : Rule} (hrule : rule ∈ catalog.rules)
    {i : Nat} (hline : (Text.lines text)[i]? = some line) (hflags : rule.Flags language line) :
    ((catalog.reported text language options).map Finding.subject).count
      (rule.id, (i : Int) + 1) = 1 := by
  obtain ⟨happlies, htype, hhits⟩ := hflags
  apply List.count_eq_one_of_mem (nodup_subjects_reported hids text language options)
  rw [map_subject_reported]
  obtain ⟨hit, rest, hfirst⟩ := List.exists_cons_of_ne_nil hhits
  refine List.mem_map.2 ⟨⟨rule, 1 + i, line, hit⟩, ?_, ?_⟩
  · exact Site.mem_inLines.2
      ⟨mem_reportedRules.2 ⟨hrule, happlies, htype⟩, by simp [hfirst], i, hline, rfl⟩
  · simp only [Prod.mk.injEq, true_and]
    omega

/-- The rule of the first place that cannot be named hits there, and its identifier is no text of
characters. -/
theorem exists_of_unnamedSite? {language : Language} {text : String} {site : Site}
    (h : catalog.unnamedSite? language text = some site) :
    site.rule ∈ catalog.rules ∧ site.rule.appliesTo language = true ∧
      (∃ line ∈ Text.lines text, site.rule.hitsIn line ≠ []) ∧ site.rule.id.text? = none := by
  have hsite := List.mem_of_find?_eq_some h
  have hunnamed : site.isNamed = false := by simpa using List.find?_some h
  obtain ⟨hrule, hhit, i, hline, -⟩ := Site.mem_inLines.1 hsite
  obtain ⟨hmem, happlies⟩ := List.mem_filter.1 hrule
  refine ⟨hmem, happlies, ⟨site.line, List.mem_of_getElem? hline, fun hnil => ?_⟩, ?_⟩
  · simp [hnil] at hhit
  · simpa [Site.isNamed] using hunnamed

/-- A scan of a text gives a report just when every rule that hits in it can be named; otherwise it
fails for such a rule, and for nothing else. The findings of a report stand in strict order; each of
them tells of a rule that is to be reported for a line of the text; and each such rule is reported
for each such line exactly once. -/
theorem a_scan_reports_each_first_hit_once (hbuilt : catalog.Built) (text : String)
    (language : Language) (options : ScanOptions) :
    ((∃ report, catalog.scan (.ofString text) language options = .ok report) ↔
      catalog.Nameable language text) ∧
    (∀ fault, catalog.scan (.ofString text) language options = .error fault →
      ∃ rule ∈ catalog.rules, rule.appliesTo language = true ∧
        (∃ line ∈ Text.lines text, rule.hitsIn line ≠ []) ∧ rule.id.text? = none ∧
          fault = .aggregate (.unencodable rule.id)) ∧
    ∀ report, catalog.scan (.ofString text) language options = .ok report →
      report.findings.Pairwise catalog.Before ∧
      (∀ finding ∈ report.findings, ∃ rule ∈ catalog.rules, ∃ i line,
        (Text.lines text)[i]? = some line ∧ rule.Flags language line ∧
          finding.Tells rule (i + 1) line) ∧
      ∀ rule ∈ catalog.rules, ∀ (i : Nat) line, (Text.lines text)[i]? = some line →
        rule.Flags language line →
          (report.findings.map Finding.subject).count (rule.id, (i : Int) + 1) = 1 := by
  have hids := hbuilt.nodup_ids
  have hdecode := Source.decode_ofString text
  refine ⟨exists_scan_eq_ok_iff hids hdecode, fun fault hfault => ?_, fun report hreport => ?_⟩
  · obtain ⟨site, hsite, rfl⟩ := (scan_eq_error_iff hids hdecode).1 hfault
    obtain ⟨hmem, happlies, hhits, hid⟩ := exists_of_unnamedSite? hsite
    exact ⟨site.rule, hmem, happlies, hhits, hid, rfl⟩
  · obtain ⟨-, rfl⟩ := (scan_eq_ok_iff hids hdecode).1 hreport
    exact ⟨reported_pairwise hids text language options, fun _ => tells_of_mem_reported,
      fun _ hrule _ _ => count_subjects_reported hids options hrule⟩

/-- Empty hits, a rule for another language and the type of clean files, in lines with all three
breaks. -/
theorem a_scan_of_small_reports_each_first_hit_once :
    small.Built ∧
    ((∃ report, small.scan (.ofString "a!!b\r\n!\rb!\n") .python {} = .ok report) ↔
      small.Nameable .python "a!!b\r\n!\rb!\n") ∧
    (∀ fault, small.scan (.ofString "a!!b\r\n!\rb!\n") .python {} = .error fault →
      ∃ rule ∈ small.rules, rule.appliesTo .python = true ∧
        (∃ line ∈ Text.lines "a!!b\r\n!\rb!\n", rule.hitsIn line ≠ []) ∧ rule.id.text? = none ∧
          fault = .aggregate (.unencodable rule.id)) ∧
    ∀ report, small.scan (.ofString "a!!b\r\n!\rb!\n") .python {} = .ok report →
      report.findings.Pairwise small.Before ∧
      (∀ finding ∈ report.findings, ∃ rule ∈ small.rules, ∃ i line,
        (Text.lines "a!!b\r\n!\rb!\n")[i]? = some line ∧ rule.Flags .python line ∧
          finding.Tells rule (i + 1) line) ∧
      ∀ rule ∈ small.rules, ∀ (i : Nat) line, (Text.lines "a!!b\r\n!\rb!\n")[i]? = some line →
        rule.Flags .python line →
          (report.findings.map Finding.subject).count (rule.id, (i : Int) + 1) = 1 :=
  ⟨small_built, a_scan_reports_each_first_hit_once small_built "a!!b\r\n!\rb!\n" .python {}⟩

/-- A rule of a catalog hits in a text, and there is no report. -/
theorem a_hit_of_half_a_character_gives_no_report :
    halved.Built ∧ halved.scan (.ofString "!\nb") .python {} =
      .error (.aggregate (.unencodable ⟨[0xD800]⟩)) := by
  have hfirst : (halved.unnamedSite? .python "!\nb").map (·.rule.id) = some ⟨[0xD800]⟩ := by
    decide +kernel
  obtain ⟨site, hsite, hid⟩ := Option.map_eq_some_iff.1 hfirst
  have hfails : halved.scan (.ofString "!\nb") .python {} = _ :=
    (scan_eq_error_iff halved_built.nodup_ids (Source.decode_ofString "!\nb")).2 ⟨site, hsite, rfl⟩
  rw [hid] at hfails
  exact ⟨halved_built, hfails⟩

end Catalog

end SourceAudit
