-- Scanning again after edits. What is found is what the texts in place of the lines give when each
-- is scanned alone: the last replacement of a line, or the line itself. So lines without an edit
-- keep their findings, and nothing is found any more once all that was flagged has been replaced.
-- There is a report just when each of those texts gives one alone.

import SourceAudit.Proofs.EditedLines
import SourceAudit.Proofs.ExactScan

namespace SourceAudit

/-! ## What a finding says wherever its line stands -/

/-- A finding without its identifier, its place among the lines, and its fix. -/
structure Gist where
  rule : WideText
  type : WideText
  severity : Severity
  column : Option Int
  matchedCode : String
  deriving DecidableEq, Repr

/-- The gist of a finding. -/
def Finding.gist (finding : Finding) : Gist where
  rule := finding.rule
  type := finding.type
  severity := finding.severity
  column := finding.location.column
  matchedCode := finding.matchedCode

namespace Site

/-- The gist of the finding at a site. -/
def gist (site : Site) : Gist where
  rule := site.rule.id
  type := site.rule.type
  severity := site.rule.severity
  column := some site.hit.start
  matchedCode := Text.trimEnd site.line

theorem gist_completed (site : Site) (options : ScanOptions) (catalog : Catalog) (seed : String)
    (n : Nat) : (options.completed catalog (site.finding seed n)).gist = site.gist := by
  obtain ⟨file, fix, h⟩ := options.completed_eq catalog (site.finding seed n)
  rw [h]
  rfl

/-- The gists of what rules find in a line. -/
def gistsOn (rules : List Rule) (line : String) : List Gist :=
  (onLine rules 1 line).map gist

theorem map_gist_onLine (rules : List Rule) (number : Nat) (line : String) :
    (onLine rules number line).map gist = gistsOn rules line := by
  unfold gistsOn onLine
  rw [List.map_filterMap, List.map_filterMap]
  congr 1
  funext rule
  cases (rule.hitsIn line).head? <;> rfl

theorem map_gist_inLines (rules : List Rule) (number : Nat) (lines : List String) :
    (inLines rules number lines).map gist = lines.flatMap (gistsOn rules) := by
  induction lines generalizing number with
  | nil => rfl
  | cons line rest ih =>
    rw [inLines, List.map_append, ih, map_gist_onLine, List.flatMap_cons]

/-- Empty lines add nothing. -/
theorem flatMap_gistsOn_filter (rules : List Rule) (lines : List (List Char)) :
    (lines.filter (!·.isEmpty)).flatMap (fun line => gistsOn rules (String.ofList line)) =
      lines.flatMap fun line => gistsOn rules (String.ofList line) := by
  have hempty : gistsOn rules "" = [] := by simp [gistsOn, onLine, Rule.hitsIn_empty]
  induction lines with
  | nil => rfl
  | cons line rest ih =>
    cases line with
    | nil => rw [List.flatMap_cons, String.ofList_nil, hempty, List.nil_append, ← ih]; rfl
    | cons c line => rw [List.filter_cons_of_pos rfl, List.flatMap_cons, List.flatMap_cons, ih]

end Site

namespace Catalog

open Edit (textsInPlace textInPlace lastFor?)

variable {catalog : Catalog}

/-! ## The gists of a report -/

/-- The gists of what is reported for a text, whatever else the scan is told. -/
def gists (catalog : Catalog) (language : Language) (text : String) : List Gist :=
  (Text.lines text).flatMap (Site.gistsOn (catalog.reportedRules language))

theorem map_gist_reported (text : String) (language : Language) (options : ScanOptions) :
    (catalog.reported text language options).map Finding.gist = catalog.gists language text := by
  rw [map_reported fun site seed n => site.gist_completed options catalog seed n,
    Site.map_gist_inLines]
  rfl

theorem gists_eq_filled (language : Language) (text : String) :
    catalog.gists language text = (Text.filled text.toList).flatMap fun line =>
      Site.gistsOn (catalog.reportedRules language) (String.ofList line) := by
  have hfilled : Text.filled text.toList = (Text.linesFrom [] text.toList).filter (!·.isEmpty) := by
    rw [Text.filter_linesFrom (by simp)]
    rfl
  unfold gists Text.lines
  rw [hfilled, Site.flatMap_gistsOn_filter, List.flatMap_map]

/-- An edited text has the gists of the texts in place of the lines. -/
theorem gists_applyEdits (language : Language) (code : String) (edits : List Edit) :
    catalog.gists language (applyEdits code edits) =
      (textsInPlace edits (Text.lines code)).flatMap (catalog.gists language) := by
  rw [gists_eq_filled, Edit.filled_applyEdits, List.flatMap_assoc]
  congr 1
  funext text
  rw [gists_eq_filled]

theorem gists_of_no_break (language : Language) {line : String}
    (h : ∀ c ∈ line.toList, Text.isBreak c = false) :
    catalog.gists language line = Site.gistsOn (catalog.reportedRules language) line := by
  rw [gists_eq_filled, Text.filled_of_no_break h, Site.flatMap_gistsOn_filter,
    List.flatMap_singleton, String.ofList_toList]

/-- The findings that a report has for a line are those at the sites on the line. -/
theorem map_gist_reported_on (language : Language) (options : ScanOptions) {text line : String}
    {i : Nat} (h : (Text.lines text)[i]? = some line) :
    ((catalog.reported text language options).filter
        fun f => f.location.line = (i : Int) + 1).map Finding.gist =
      Site.gistsOn (catalog.reportedRules language) line := by
  have hviews : (catalog.reported text language options).map
        (fun f => (f.location.line, f.gist)) =
      (Site.inLines (catalog.reportedRules language) 1 (Text.lines text)).map
        fun site => ((site.number : Int), site.gist) := by
    apply map_reported
    intro site seed n
    obtain ⟨file, fix, hcompleted⟩ := options.completed_eq catalog (site.finding seed n)
    rw [site.gist_completed, hcompleted]
    rfl
  have hnumber : ∀ site : Site, decide ((site.number : Int) = (i : Int) + 1) =
      decide (site.number = 1 + i) := by
    intro site
    rw [decide_eq_decide]
    omega
  calc ((catalog.reported text language options).filter
          fun f => f.location.line = (i : Int) + 1).map Finding.gist
    _ = (((catalog.reported text language options).map fun f => (f.location.line, f.gist)).filter
          fun view => view.1 = (i : Int) + 1).map Prod.snd := by
      rw [List.filter_map, List.map_map]
      rfl
    _ = ((Site.inLines (catalog.reportedRules language) 1 (Text.lines text)).filter
          fun site => site.number = 1 + i).map Site.gist := by
      rw [hviews, List.filter_map, List.map_map]
      simp only [Function.comp_def, hnumber]
    _ = Site.gistsOn (catalog.reportedRules language) line := by
      rw [Site.inLines_filter_number _ h, Site.map_gist_onLine]

/-- What is reported for one line of a text is what the line gives alone. -/
theorem gists_of_line (language : Language) (options : ScanOptions) {text line : String} {i : Nat}
    (h : (Text.lines text)[i]? = some line) :
    catalog.gists language line =
      ((catalog.reported text language options).filter
        fun f => f.location.line = (i : Int) + 1).map Finding.gist := by
  rw [map_gist_reported_on language options h,
    gists_of_no_break language (Text.no_break_of_mem_lines (List.mem_of_getElem? h))]

/-! ## The law -/

theorem gistsOn_eq_nil {language : Language} {line : String}
    (h : ∀ rule ∈ catalog.rules, ¬ rule.Flags language line) :
    Site.gistsOn (catalog.reportedRules language) line = [] := by
  unfold Site.gistsOn Site.onLine
  rw [List.map_eq_nil_iff, List.filterMap_eq_nil_iff]
  intro rule hrule
  obtain ⟨hmem, happlies, htype⟩ := mem_reportedRules.1 hrule
  have hhits : rule.hitsIn line = [] := by
    by_contra hne
    exact h rule hmem ⟨happlies, htype, hne⟩
  rw [hhits]
  rfl

/-- Where all flagged lines have edits and no rule hits in a replacement, nothing is left. -/
theorem gists_applyEdits_eq_nil {code : String} {edits : List Edit} {language : Language}
    {options : ScanOptions}
    (hflagged : ∀ f ∈ catalog.reported code language options,
      ∃ edit ∈ edits, edit.line = f.location.line)
    (hclean : ∀ edit ∈ edits, ∀ line ∈ Text.lines edit.replacement, ∀ rule ∈ catalog.rules,
      ¬ rule.Flags language line) :
    catalog.gists language (applyEdits code edits) = [] := by
  rw [gists_applyEdits, List.flatMap_eq_nil_iff]
  intro text htext
  obtain ⟨i, hi⟩ := List.mem_iff_getElem?.1 htext
  rw [Edit.getElem?_textsInPlace, Option.map_eq_some_iff] at hi
  obtain ⟨line, hline, rfl⟩ := hi
  cases hlast : lastFor? edits ((i : Int) + 1) with
  | some edit =>
    refine List.flatMap_eq_nil_iff.2 fun line hline => gistsOn_eq_nil ?_
    exact hclean edit (Edit.mem_of_lastFor? hlast) line hline
  | none =>
    -- a finding on the line would have an edit
    unfold textInPlace
    dsimp only
    rw [gists_of_line language options hline, List.map_eq_nil_iff, List.filter_eq_nil_iff]
    intro f hf hnumber
    obtain ⟨edit, hedit, heq⟩ := hflagged f hf
    exact Edit.lastFor?_eq_none_iff.1 hlast edit hedit (heq.trans (by simpa using hnumber))

/-! ### Which texts give a report -/

/-- Rules that can be named hit in a text when they do in its lines that are not empty. -/
theorem nameable_iff_filled {language : Language} {text : String} :
    catalog.Nameable language text ↔ ∀ rule ∈ catalog.rules, rule.appliesTo language = true →
      ∀ line ∈ Text.filled text.toList, rule.hitsIn (String.ofList line) ≠ [] →
        ∃ id : String, rule.id = id := by
  have hfilled : Text.filled text.toList = (Text.linesFrom [] text.toList).filter (!·.isEmpty) := by
    rw [Text.filter_linesFrom (by simp)]
    rfl
  unfold Nameable Text.lines
  refine forall₂_congr fun rule _ => imp_congr_right fun _ => ?_
  rw [List.forall_mem_map, hfilled]
  constructor
  · exact fun h line hline => h line (List.mem_filter.1 hline).1
  · intro h line hline hhits
    refine h line (List.mem_filter.2 ⟨hline, ?_⟩) hhits
    cases line with
    | nil => exact absurd rule.hitsIn_empty hhits
    | cons c rest => rfl

/-- The rules that hit in an edited text are those that hit in the texts in place of the lines. -/
theorem nameable_applyEdits_iff {language : Language} {code : String} {edits : List Edit} :
    catalog.Nameable language (applyEdits code edits) ↔
      ∀ text ∈ textsInPlace edits (Text.lines code), catalog.Nameable language text := by
  simp only [nameable_iff_filled, Edit.filled_applyEdits, List.forall_mem_flatMap]
  exact ⟨fun h text htext rule hrule happlies => h rule hrule happlies text htext,
    fun h rule hrule happlies text htext => h text htext rule hrule happlies⟩

/-- A scan of an edited text gives a report just when each of the texts in place of the lines gives
one alone, and it finds just what these give. So each line without an edit gives what was found on
it before; and where each line with a finding has an edit, and no rule is to be reported for any
line of a replacement, nothing is found. -/
theorem a_rescan_sees_just_the_texts_in_place (hbuilt : catalog.Built) (code : String)
    (edits : List Edit) (language : Language) (options : ScanOptions) :
    (∀ text, (∃ report, catalog.scan (.ofString text) language options = .ok report) ↔
      catalog.Nameable language text) ∧
    ((∃ after, catalog.scan (.ofString (applyEdits code edits)) language options = .ok after) ↔
      ∃ parts, (textsInPlace edits (Text.lines code)).mapM
        (fun text => catalog.scan (.ofString text) language options) = .ok parts) ∧
    ∀ after parts,
      catalog.scan (.ofString (applyEdits code edits)) language options = .ok after →
      (textsInPlace edits (Text.lines code)).mapM
        (fun text => catalog.scan (.ofString text) language options) = .ok parts →
      after.findings.map Finding.gist =
        parts.flatMap (fun part => part.findings.map Finding.gist) ∧
      ∀ before, catalog.scan (.ofString code) language options = .ok before →
        (∀ (i : Nat) part, parts[i]? = some part → (∀ edit ∈ edits, edit.line ≠ (i : Int) + 1) →
          part.findings.map Finding.gist =
            (before.findings.filter fun f => f.location.line = (i : Int) + 1).map Finding.gist) ∧
        ((∀ f ∈ before.findings, ∃ edit ∈ edits, edit.line = f.location.line) →
          (∀ edit ∈ edits, ∀ line ∈ Text.lines edit.replacement, ∀ rule ∈ catalog.rules,
            ¬ rule.Flags language line) →
          after.findings = []) := by
  have hscan := fun text => @scan_eq_ok_iff _ hbuilt.nodup_ids _ _ (Source.decode_ofString text)
    language options
  have hexists := fun text => @exists_scan_eq_ok_iff _ hbuilt.nodup_ids _ _
    (Source.decode_ofString text) language options
  refine ⟨hexists, ?_, fun after parts hafter hparts => ?_⟩
  · rw [hexists, nameable_applyEdits_iff, exists_mapM_eq_ok_iff]
    exact forall₂_congr fun text _ => (hexists text).symm
  · obtain ⟨-, rfl⟩ := (hscan _).1 hafter
    have hone : ∀ text ∈ textsInPlace edits (Text.lines code),
        catalog.scan (.ofString text) language options =
          .ok (catalog.reportOn text language options) := by
      intro text htext
      obtain ⟨report, hreport⟩ := exists_mapM_eq_ok_iff.1 ⟨parts, hparts⟩ text htext
      exact (hscan text).2 ⟨((hscan text).1 hreport).1, rfl⟩
    have hall := mapM_eq_ok_map hone
    obtain rfl := Except.ok.inj (hall.symm.trans hparts)
    refine ⟨?_, fun before hbefore => ?_⟩
    · rw [reportOn, map_gist_reported, gists_applyEdits, List.flatMap_map]
      simp only [reportOn, map_gist_reported]
    · obtain ⟨-, rfl⟩ := (hscan _).1 hbefore
      refine ⟨fun i part hpart hunedited => ?_, fun hflagged hclean => ?_⟩
      · rw [List.getElem?_map, Edit.getElem?_textsInPlace, Edit.lastFor?_eq_none_iff.2 hunedited,
          Option.map_eq_some_iff] at hpart
        obtain ⟨text, htext, rfl⟩ := hpart
        obtain ⟨line, hline, rfl⟩ := Option.map_eq_some_iff.1 htext
        rw [reportOn, map_gist_reported]
        exact gists_of_line language options hline
      · have hnil := gists_applyEdits_eq_nil hflagged hclean
        rw [← map_gist_reported (applyEdits code edits) language options,
          List.map_eq_nil_iff] at hnil
        exact hnil

/-- Two edits are of the flagged line, whose break is a carriage return; the last one ends with a
break of its own. A third edit is of no line. -/
theorem a_rescan_of_small_sees_just_the_texts_in_place :
    let edits : List Edit := [⟨1, "!"⟩, ⟨0, "!"⟩, ⟨1, "a\n"⟩]
    small.Built ∧
    (∀ text, (∃ report, small.scan (.ofString text) .python {} = .ok report) ↔
      small.Nameable .python text) ∧
    ((∃ after, small.scan (.ofString (applyEdits "b!\rb" edits)) .python {} = .ok after) ↔
      ∃ parts, (textsInPlace edits (Text.lines "b!\rb")).mapM
        (fun text => small.scan (.ofString text) .python {}) = .ok parts) ∧
    ∀ after parts,
      small.scan (.ofString (applyEdits "b!\rb" edits)) .python {} = .ok after →
      (textsInPlace edits (Text.lines "b!\rb")).mapM
        (fun text => small.scan (.ofString text) .python {}) = .ok parts →
      after.findings.map Finding.gist =
        parts.flatMap (fun part => part.findings.map Finding.gist) ∧
      ∀ before, small.scan (.ofString "b!\rb") .python {} = .ok before →
        (∀ (i : Nat) part, parts[i]? = some part → (∀ edit ∈ edits, edit.line ≠ (i : Int) + 1) →
          part.findings.map Finding.gist =
            (before.findings.filter fun f => f.location.line = (i : Int) + 1).map Finding.gist) ∧
        ((∀ f ∈ before.findings, ∃ edit ∈ edits, edit.line = f.location.line) →
          (∀ edit ∈ edits, ∀ line ∈ Text.lines edit.replacement, ∀ rule ∈ small.rules,
            ¬ rule.Flags .python line) →
          after.findings = []) := by
  intro edits
  exact ⟨small_built, a_rescan_sees_just_the_texts_in_place small_built "b!\rb" edits .python {}⟩

end Catalog

end SourceAudit
