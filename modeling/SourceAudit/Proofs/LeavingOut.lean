-- Leaving rules out of a catalog removes their findings from every report and disturbs nothing
-- else. The places of the other rules move, but each rule counts its own findings, and its template
-- is found by its identifier; so identifiers, order and fixes stay as they are. There may be a
-- report without some rules where there is none with them: rules that cannot be named no longer
-- hit.

import SourceAudit.Proofs.Reported

namespace SourceAudit.Catalog

variable {catalog : Catalog} {ids : List WideText}

/-! ## The rules that are left -/

theorem reportedRules_dropping (language : Language) :
    (catalog.dropping ids).reportedRules language =
      (catalog.reportedRules language).filter fun rule => !ids.contains rule.id := by
  unfold reportedRules rulesFor dropping
  simp only [List.filter_filter, Bool.and_comm, Bool.and_left_comm]

/-- A rule that is left is found by its identifier as before. -/
theorem get?_dropping {id : WideText} (h : id ∉ ids) :
    (catalog.dropping ids).get? id = catalog.get? id := by
  unfold get? dropping
  rw [List.find?_filter]
  congr 1
  funext rule
  by_cases hid : rule.id = id
  · simp [hid, h]
  · simp [hid]

/-- A finding of a rule that is left is completed as before. -/
theorem completed_dropping (options : ScanOptions) {finding : Finding} (h : finding.rule ∉ ids) :
    options.completed (catalog.dropping ids) finding = options.completed catalog finding := by
  have htemplate : ∀ f : Finding, f.rule = finding.rule →
      (catalog.dropping ids).templateFor? f = catalog.templateFor? f := by
    intro f hf
    unfold templateFor?
    rw [hf, get?_dropping h]
    rfl
  unfold ScanOptions.completed attachFix fixText
  cases options.file with
  | none => simp only [htemplate finding rfl]
  | some file => simp only [htemplate (finding.inFile file) rfl]

/-! ## The law -/

theorem reported_dropping (hids : catalog.ids.Nodup) (text : String) (language : Language)
    (options : ScanOptions) :
    (catalog.dropping ids).reported text language options =
      (catalog.reported text language options).filter fun f => !ids.contains f.rule := by
  have hfindings : (Site.findings (options.seedFor language text) []
      (Site.inLines (catalog.reportedRules language) 1 (Text.lines text))).filter
        (fun f => !ids.contains f.rule) =
      Site.findings (options.seedFor language text) []
        (Site.inLines ((catalog.dropping ids).reportedRules language) 1 (Text.lines text)) := by
    rw [reportedRules_dropping, ← Site.inLines_filter]
    apply Site.findings_filter fun rule => !ids.contains rule.id
    · exact fun _ _ => rfl
    · exact site_rule_eq hids fun _ h => (mem_reportedRules.1 h).1
    · exact fun _ _ _ => rfl
  unfold reported
  rw [List.filter_map, ← hfindings]
  simp only [Function.comp_def, ScanOptions.completed_rule]
  apply List.map_congr_left
  intro f hf
  apply completed_dropping options
  simpa using (List.mem_filter.1 hf).2

/-- The rules that hit can be named when those that are not left out can. -/
theorem nameable_dropping_iff {language : Language} {text : String} :
    (catalog.dropping ids).Nameable language text ↔
      ∀ rule ∈ catalog.rules, rule.id ∉ ids → rule.appliesTo language = true →
        ∀ line ∈ Text.lines text, rule.hitsIn line ≠ [] → ∃ id : String, rule.id = id := by
  unfold Nameable dropping
  simp only [List.mem_filter, Bool.not_eq_true', List.contains_eq_mem, decide_eq_false_iff_not,
    and_imp]

/-- Rules that a catalog has can be left out of it. A scan gives a report just when all rules that
hit can be named, those that are left out aside. Where it gives one with all rules, it gives the
same findings without some, in the same order and with the same identifiers and fixes, except for
those of the rules left out; and the summary counts what is left. -/
theorem leaving_rules_out_removes_just_their_findings (hbuilt : catalog.Built)
    (hknown : ∀ id ∈ ids, id ∈ catalog.ids) {source : Source} {text : String}
    (hdecode : source.decode = .ok text) (language : Language) (options : ScanOptions) :
    ∃ rest, catalog.without ids = .ok rest ∧
      ((∃ full, catalog.scan source language options = .ok full) ↔
        catalog.Nameable language text) ∧
      ((∃ part, rest.scan source language options = .ok part) ↔
        ∀ rule ∈ catalog.rules, rule.id ∉ ids → rule.appliesTo language = true →
          ∀ line ∈ Text.lines text, rule.hitsIn line ≠ [] → ∃ id : String, rule.id = id) ∧
      ∀ full, catalog.scan source language options = .ok full →
        ∃ part, rest.scan source language options = .ok part ∧
          part.findings = full.findings.filter (fun f => !ids.contains f.rule) ∧
          part.summary = Summary.ofFindings part.findings := by
  have hwithout : catalog.without ids = .ok (catalog.dropping ids) :=
    without_eq_ok_iff.2 ⟨hknown, rfl⟩
  have hids := hbuilt.nodup_ids
  have hrest := (Built.without hbuilt hwithout).nodup_ids
  refine ⟨_, hwithout, exists_scan_eq_ok_iff hids hdecode, ?_, fun full hfull => ?_⟩
  · rw [exists_scan_eq_ok_iff hrest hdecode, nameable_dropping_iff]
  · obtain ⟨hnameable, rfl⟩ := (scan_eq_ok_iff hids hdecode).1 hfull
    have hpart : (catalog.dropping ids).Nameable language text :=
      nameable_dropping_iff.2 fun rule hrule _ => hnameable rule hrule
    exact ⟨_, (scan_eq_ok_iff hrest hdecode).2 ⟨hpart, rfl⟩,
      reported_dropping hids text language options, rfl⟩

/-- The first rule is left out, so that all other places move. -/
theorem leaving_bang_out_removes_just_its_findings :
    small.Built ∧ (∀ id ∈ (["bang"] : List WideText), id ∈ small.ids) ∧
      (Source.ofString "b!\nb").decode = .ok "b!\nb" ∧
      ∃ rest, small.without ["bang"] = .ok rest ∧
        ((∃ full, small.scan (.ofString "b!\nb") .go {} = .ok full) ↔ small.Nameable .go "b!\nb") ∧
        ((∃ part, rest.scan (.ofString "b!\nb") .go {} = .ok part) ↔
          ∀ rule ∈ small.rules, rule.id ∉ (["bang"] : List WideText) →
            rule.appliesTo .go = true → ∀ line ∈ Text.lines "b!\nb", rule.hitsIn line ≠ [] →
              ∃ id : String, rule.id = id) ∧
        ∀ full, small.scan (.ofString "b!\nb") .go {} = .ok full →
          ∃ part, rest.scan (.ofString "b!\nb") .go {} = .ok part ∧
            part.findings = full.findings.filter (fun f =>
              !(["bang"] : List WideText).contains f.rule) ∧
            part.summary = Summary.ofFindings part.findings := by
  have hknown : ∀ id ∈ (["bang"] : List WideText), id ∈ small.ids := by decide +kernel
  have hdecode := Source.decode_ofString "b!\nb"
  exact ⟨small_built, hknown, hdecode,
    leaving_rules_out_removes_just_their_findings small_built hknown hdecode .go {}⟩

/-- Without the rule that cannot be named there is a report, and with it there is none. -/
theorem leaving_half_a_character_out_gives_a_report :
    halved.Built ∧ (∀ id ∈ [(⟨[0xD800]⟩ : WideText)], id ∈ halved.ids) ∧
      ∃ rest, halved.without [⟨[0xD800]⟩] = .ok rest ∧
        halved.scan (.ofString "!") .python {} =
          .error (.aggregate (.unencodable ⟨[0xD800]⟩)) ∧
        ∃ part, rest.scan (.ofString "!") .python {} = .ok part := by
  have hknown : ∀ id ∈ [(⟨[0xD800]⟩ : WideText)], id ∈ halved.ids := by decide +kernel
  have hwithout := without_eq_ok_iff.2 ⟨hknown, rfl⟩
  have hdecode := Source.decode_ofString "!"
  have hfirst : (halved.unnamedSite? .python "!").map (·.rule.id) = some ⟨[0xD800]⟩ := by
    decide +kernel
  obtain ⟨site, hsite, hid⟩ := Option.map_eq_some_iff.1 hfirst
  have hfails : halved.scan (.ofString "!") .python {} = _ :=
    (scan_eq_error_iff halved_built.nodup_ids hdecode).2 ⟨site, hsite, rfl⟩
  have hnone : (halved.dropping [⟨[0xD800]⟩]).unnamedSite? .python "!" = none := by
    rw [← Option.isNone_iff_eq_none]
    decide +kernel
  rw [hid] at hfails
  exact ⟨halved_built, hknown, _, hwithout, hfails,
    (exists_scan_eq_ok_iff (Built.without halved_built hwithout).nodup_ids hdecode).2
      (unnamedSite?_eq_none_iff.1 hnone)⟩

end SourceAudit.Catalog
