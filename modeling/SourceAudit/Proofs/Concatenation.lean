-- Scanning a text in two parts. Behind a break, the findings of the whole are those of the first
-- part as they stand, and then those of the second part, moved down and numbered on. So code that
-- is added behind other code never changes what was found before. Where a part gives no report,
-- neither does the whole.

import SourceAudit.Proofs.LineSeams
import SourceAudit.Proofs.Reported

namespace SourceAudit

/-! ## Moving findings down -/

namespace Finding

/-- How many of some findings are of a rule. -/
def countOf (rule : WideText) (findings : List Finding) : Nat :=
  (findings.map (·.rule)).count rule

/-- A finding a number of lines further down, with its identifier made anew, where its rule has
`occurrence` findings before. -/
def movedDown (finding : Finding) (seed : String) (lines occurrence : Nat) : Finding :=
  { finding with
    id := Identity.findingId seed finding.rule.characters (finding.location.line + lines) occurrence
    location := { finding.location with line := finding.location.line + lines } }

end Finding

theorem Site.finding_down (site : Site) (seed : String) (lines m n : Nat) :
    (site.down lines).finding seed n = (site.finding seed m).movedDown seed lines n := by
  have hline : ((site.number + lines : Nat) : Int) = (site.number : Int) + lines :=
    Int.natCast_add site.number lines
  unfold finding Aggregate.Placed.finding Finding.movedDown down raw
  rw [hline]

theorem ScanOptions.completed_movedDown (options : ScanOptions) (catalog : Catalog)
    (finding : Finding) (seed : String) (lines n : Nat) :
    options.completed catalog (finding.movedDown seed lines n) =
      (options.completed catalog finding).movedDown seed lines n := by
  unfold completed
  cases options.file <;> cases options.resolveFixes <;> rfl

/-- Findings at sites further down, behind others of the rules in `earlier`, are the findings at
the sites themselves, moved down and numbered on. -/
theorem Site.map_findings_down (options : ScanOptions) (catalog : Catalog) (seed : String)
    (lines : Nat) (earlier before : List WideText) (sites : List Site) :
    (Site.findings seed (earlier ++ before) (sites.map (·.down lines))).map
        (options.completed catalog) =
      let own := (Site.findings seed before sites).map (options.completed catalog)
      own.mapIdx fun i f => f.movedDown seed lines
        (before.count f.rule + Finding.countOf f.rule (own.take i) + earlier.count f.rule) := by
  induction sites generalizing before with
  | nil => rfl
  | cons site rest ih =>
    have hhead : ∀ n, options.completed catalog ((site.down lines).finding seed n) =
        (options.completed catalog (site.finding seed (before.count site.rule.id))).movedDown
          seed lines n := fun n => by
      rw [site.finding_down seed lines (before.count site.rule.id),
        ScanOptions.completed_movedDown]
    have hrest := ih (before ++ [site.rule.id])
    rw [← List.append_assoc] at hrest
    dsimp only at hrest ⊢
    rw [List.map_cons, Site.findings_cons, Site.findings_cons, List.map_cons, List.map_cons,
      List.mapIdx_cons, show (site.down lines).rule.id = site.rule.id from rfl, hrest, hhead]
    have hcount : (earlier ++ before).count site.rule.id =
        before.count site.rule.id + earlier.count site.rule.id := by
      rw [List.count_append, Nat.add_comm]
    rw [hcount]
    refine List.cons_eq_cons.2 ⟨?_, ?_⟩
    · simp only [List.take_zero, Finding.countOf, List.map_nil, List.count_nil, Nat.add_zero,
        ScanOptions.completed_rule, Site.finding_rule]
    · -- the findings of the rest come behind the first one
      simp only [List.take_succ_cons, Finding.countOf, List.map_cons, List.count_cons,
        List.count_append, ScanOptions.completed_rule, Site.finding_rule, List.count_nil,
        Nat.zero_add, Nat.add_assoc, Nat.add_comm]

/-! ## The law -/

namespace Catalog

variable {catalog : Catalog}

theorem seedFor_of_ne {options : ScanOptions} {seed : String} (hseed : options.seed = some seed)
    (hne : seed ≠ "") (language : Language) (text : String) :
    options.seedFor language text = seed := by
  unfold ScanOptions.seedFor
  rw [hseed]
  dsimp only
  rw [if_neg (by simpa using hne)]

/-- The identifier of a reported finding says which one of its rule it is, counted from zero. -/
theorem id_reported {text : String} {language : Language} {options : ScanOptions} {i : Nat}
    {f : Finding} (h : (catalog.reported text language options)[i]? = some f) :
    f.id = Identity.findingId (options.seedFor language text) f.rule.characters f.location.line
      (Finding.countOf f.rule ((catalog.reported text language options).take i)) := by
  have hstay : ∀ sites : List Site, sites.map (·.down 0) = sites := List.map_id
  -- all findings are as they are when they are moved by no line and numbered anew
  have hmoved := Site.map_findings_down options catalog (options.seedFor language text) 0 [] []
    (Site.inLines (catalog.reportedRules language) 1 (Text.lines text))
  rw [hstay, List.append_nil, ← reported] at hmoved
  have hf := congrArg (·[i]?) hmoved
  dsimp only at hf
  rw [List.getElem?_mapIdx, h, Option.map_some, Option.some.injEq] at hf
  have hid := congrArg Finding.id hf
  simpa only [Finding.movedDown, List.count_nil, Nat.zero_add, Nat.add_zero, Int.natCast_zero,
    Int.add_zero] using hid

/-- What is reported for two texts in a row. -/
theorem reported_append {first second : String}
    (hseam : first = "" ∨ Text.SeamFits first.toList second.toList) {options : ScanOptions}
    {seed : String} (hseed : options.seed = some seed) (hne : seed ≠ "") (language : Language) :
    catalog.reported (first ++ second) language options =
      let upper := catalog.reported first language options
      let lower := catalog.reported second language options
      upper ++ lower.mapIdx fun i f => f.movedDown seed (Text.lines first).length
        (Finding.countOf f.rule (lower.take i) + Finding.countOf f.rule upper) := by
  have hcount : ∀ rule, ((Site.inLines (catalog.reportedRules language) 1
      (Text.lines first)).map (·.rule.id)).count rule =
        Finding.countOf rule (catalog.reported first language options) := by
    intro rule
    unfold Finding.countOf
    rw [map_reported]
    intro site seed n
    rw [ScanOptions.completed_rule, Site.finding_rule]
  dsimp only
  unfold reported at hcount ⊢
  simp only [seedFor_of_ne hseed hne] at hcount ⊢
  rw [Text.lines_append hseam, Site.inLines_append, Site.inLines_down, Site.findings_append,
    List.map_append, List.nil_append, ← List.append_nil (List.map _ (Site.inLines _ _ _)),
    Site.map_findings_down]
  simp only [hcount, List.count_nil, Nat.zero_add]

/-- The first place that cannot be named in two texts in a row is that in the first one, or else
that in the second one, moved down. -/
theorem unnamedSite?_append {first second : String}
    (hseam : first = "" ∨ Text.SeamFits first.toList second.toList) (language : Language) :
    catalog.unnamedSite? language (first ++ second) =
      (catalog.unnamedSite? language first).or
        ((catalog.unnamedSite? language second).map (·.down (Text.lines first).length)) := by
  unfold unnamedSite?
  rw [Text.lines_append hseam, Site.inLines_append, Site.inLines_down, List.find?_append,
    List.find?_map]
  rfl

/-- A scan of any text gives a report just when all rules that hit in it can be named. Behind an
empty text or a break, a text with further code fails as the text does, or else as the code does. If
neither fails, it gives the findings of the text as they are, and then those of the code, moved down
below the text. These keep all but their identifiers, which are made anew: each counts the findings
of its rule in the text, and those that come before it in the code. -/
theorem code_behind_a_break_is_reported_below (hbuilt : catalog.Built) {first second : String}
    (hseam : first = "" ∨ Text.SeamFits first.toList second.toList) (language : Language)
    {options : ScanOptions} {seed : String} (hseed : options.seed = some seed) (hne : seed ≠ "") :
    (∀ text, (∃ report, catalog.scan (.ofString text) language options = .ok report) ↔
      catalog.Nameable language text) ∧
    (∀ fault, catalog.scan (.ofString first) language options = .error fault →
      catalog.scan (.ofString (first ++ second)) language options = .error fault) ∧
    ∀ upper, catalog.scan (.ofString first) language options = .ok upper →
      (∀ fault, catalog.scan (.ofString second) language options = .error fault →
        catalog.scan (.ofString (first ++ second)) language options = .error fault) ∧
      ∀ lower, catalog.scan (.ofString second) language options = .ok lower →
        ∃ whole, catalog.scan (.ofString (first ++ second)) language options = .ok whole ∧
          whole.findings = upper.findings ++ lower.findings.mapIdx (fun i f =>
            f.movedDown seed (Text.lines first).length
              (Finding.countOf f.rule (lower.findings.take i) +
                Finding.countOf f.rule upper.findings)) ∧
          ∀ (i : Nat) (f : Finding), lower.findings[i]? = some f → ∃ rule : String, f.rule = rule ∧
            f.id = Identity.findingId seed rule f.location.line
              (Finding.countOf f.rule (lower.findings.take i)) := by
  have hids := hbuilt.nodup_ids
  have hdecode := Source.decode_ofString
  have happend : catalog.unnamedSite? language (first ++ second) = _ :=
    unnamedSite?_append hseam language
  refine ⟨fun text => exists_scan_eq_ok_iff hids (hdecode text), fun fault hfault => ?_,
    fun upper hupper => ⟨fun fault hfault => ?_, fun lower hlower => ?_⟩⟩
  · obtain ⟨site, hsite, rfl⟩ := (scan_eq_error_iff hids (hdecode first)).1 hfault
    refine (scan_eq_error_iff hids (hdecode _)).2 ⟨site, ?_, rfl⟩
    rw [happend, hsite, Option.some_or]
  · obtain ⟨hnone, -⟩ := (scan_eq_ok_iff hids (hdecode first)).1 hupper
    obtain ⟨site, hsite, rfl⟩ := (scan_eq_error_iff hids (hdecode second)).1 hfault
    refine (scan_eq_error_iff hids (hdecode _)).2 ⟨site.down (Text.lines first).length, ?_, rfl⟩
    rw [happend, unnamedSite?_eq_none_iff.2 hnone, hsite, Option.none_or, Option.map_some]
  · obtain ⟨hfirst, rfl⟩ := (scan_eq_ok_iff hids (hdecode first)).1 hupper
    obtain ⟨hsecond, rfl⟩ := (scan_eq_ok_iff hids (hdecode second)).1 hlower
    have hwhole : catalog.Nameable language (first ++ second) := by
      rw [← unnamedSite?_eq_none_iff, happend, unnamedSite?_eq_none_iff.2 hfirst,
        unnamedSite?_eq_none_iff.2 hsecond]
      rfl
    refine ⟨_, (scan_eq_ok_iff hids (hdecode _)).2 ⟨hwhole, rfl⟩,
      reported_append hseam hseed hne language, fun i f hf => ?_⟩
    obtain ⟨rule, hrule⟩ := exists_rule_of_mem_reported hsecond (List.mem_of_getElem? hf)
    refine ⟨rule, hrule, ?_⟩
    rw [id_reported hf, seedFor_of_ne hseed hne, hrule, WideText.characters_ofString]
    rfl

/-- The seam lies behind a carriage return, and both parts flag a line. -/
theorem code_behind_a_carriage_return_is_reported_below :
    small.Built ∧ ("a!\r" = "" ∨ Text.SeamFits "a!\r".toList "b\n!".toList) ∧
      ScanOptions.seed { seed := some "s" } = some "s" ∧ "s" ≠ "" ∧
      (∀ text, (∃ report, small.scan (.ofString text) .python { seed := some "s" } = .ok report) ↔
        small.Nameable .python text) ∧
      (∀ fault, small.scan (.ofString "a!\r") .python { seed := some "s" } = .error fault →
        small.scan (.ofString ("a!\r" ++ "b\n!")) .python { seed := some "s" } = .error fault) ∧
      ∀ upper, small.scan (.ofString "a!\r") .python { seed := some "s" } = .ok upper →
        (∀ fault, small.scan (.ofString "b\n!") .python { seed := some "s" } = .error fault →
          small.scan (.ofString ("a!\r" ++ "b\n!")) .python { seed := some "s" } = .error fault) ∧
        ∀ lower, small.scan (.ofString "b\n!") .python { seed := some "s" } = .ok lower →
          ∃ whole,
            small.scan (.ofString ("a!\r" ++ "b\n!")) .python { seed := some "s" } = .ok whole ∧
            whole.findings = upper.findings ++ lower.findings.mapIdx (fun i f =>
              f.movedDown "s" (Text.lines "a!\r").length
                (Finding.countOf f.rule (lower.findings.take i) +
                  Finding.countOf f.rule upper.findings)) ∧
            ∀ (i : Nat) (f : Finding), lower.findings[i]? = some f →
              ∃ rule : String, f.rule = rule ∧ f.id = Identity.findingId "s" rule f.location.line
                (Finding.countOf f.rule (lower.findings.take i)) := by
  have hseam : "a!\r" = "" ∨ Text.SeamFits "a!\r".toList "b\n!".toList :=
    Or.inr (Or.inr (by decide))
  have hne : "s" ≠ "" := by decide
  exact ⟨small_built, hseam, rfl, hne,
    code_behind_a_break_is_reported_below small_built hseam .python rfl hne⟩

end Catalog

end SourceAudit
