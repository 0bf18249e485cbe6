-- How flagged code is quoted in the text of a fix. Indentation takes more characters for the end
-- of a line than scans do, and puts four spaces in front of what follows them. So code with one of
-- these in it is not quoted as it stands; all other code is.

import SourceAudit.Proofs.FilledLines
import SourceAudit.Proofs.ResolvedFixes

namespace SourceAudit

namespace Text

/-! ## Lines of running text -/

/-- Whatever ends a line of running text is white space. -/
theorem isBlank_of_endsProseLine {p : CodePoint} (h : endsProseLine p.val = true) :
    p.isBlank = true := by
  unfold CodePoint.isBlank isBlankNumber
  unfold endsProseLine at h
  simp only [Bool.or_eq_true, Bool.and_eq_true, decide_eq_true_eq, beq_iff_eq] at h ⊢
  omega

theorem flatten_proseLinesFrom (current text : List CodePoint) :
    (proseLinesFrom current text).flatten = current.reverse ++ text := by
  fun_induction proseLinesFrom current text with
  | case1 current hempty => simpa using hempty
  | case2 current hempty | case3 current p => simp
  | case4 current p q rest hcrlf ih | case5 current p q rest hcrlf hp ih => simp [ih]
  | case6 current p q rest hcrlf hp ih => simpa using ih

/-- A text in which nothing ends a line is one line. -/
theorem proseLinesFrom_eq_singleton (current : List CodePoint) {text : List CodePoint}
    (h : ∀ p ∈ text, endsProseLine p.val = false) (hne : current.reverse ++ text ≠ []) :
    proseLinesFrom current text = [current.reverse ++ text] := by
  fun_induction proseLinesFrom current text with
  | case1 current hempty => exact absurd (by simpa using hempty) hne
  | case2 current hempty | case3 current p => simp
  | case4 current p q rest hcrlf ih =>
    have hfirst := h p List.mem_cons_self
    rw [hcrlf.1] at hfirst
    cases hfirst
  | case5 current p q rest hcrlf hp ih =>
    rw [h p List.mem_cons_self] at hp
    cases hp
  | case6 current p q rest hcrlf hp ih =>
    rw [ih (fun r hr => h r (List.mem_cons_of_mem _ hr)) (by simp)]
    simp

/-- Otherwise its first line is told off by a break, which is white space. -/
theorem exists_proseLinesFrom_eq (current : List CodePoint) {text : List CodePoint}
    (h : ∃ p ∈ text, endsProseLine p.val = true) :
    ∃ line brk rest, text = line ++ (brk ++ rest) ∧ brk ≠ [] ∧ (∀ p ∈ brk, p.isBlank = true) ∧
      proseLinesFrom current text = (current.reverse ++ line ++ brk) :: proseLinesFrom [] rest := by
  fun_induction proseLinesFrom current text with
  | case1 current hempty | case2 current hempty =>
    obtain ⟨p, hp, -⟩ := h
    cases hp
  | case3 current p =>
    obtain ⟨q, hq, hends⟩ := h
    obtain rfl := List.mem_singleton.1 hq
    refine ⟨[], [q], [], rfl, List.cons_ne_nil _ _, ?_, by simp [proseLinesFrom]⟩
    simpa using isBlank_of_endsProseLine hends
  | case4 current p q rest hcrlf ih =>
    have hblank : ∀ r ∈ [p, q], r.isBlank = true := by
      simp [CodePoint.isBlank, isBlankNumber, hcrlf]
    exact ⟨[], [p, q], rest, rfl, List.cons_ne_nil _ _, hblank, by simp⟩
  | case5 current p q rest hcrlf hp ih =>
    refine ⟨[], [p], q :: rest, rfl, List.cons_ne_nil _ _, ?_, by simp⟩
    simpa using isBlank_of_endsProseLine hp
  | case6 current p q rest hcrlf hp ih =>
    obtain ⟨r, hr, hends⟩ := h
    rcases List.mem_cons.1 hr with rfl | hr
    · exact absurd hends hp
    · obtain ⟨line, brk, behind, hrest, hne, hblank, hlines⟩ := ih ⟨r, hr, hends⟩
      exact ⟨p :: line, brk, behind, by rw [hrest, List.cons_append], hne, hblank,
        by simp [hlines]⟩

/-! ## White space in front -/

theorem takeWhile_append_of_exists {α : Type} {p : α → Bool} {front : List α}
    (h : ∃ x ∈ front, p x = false) (rest : List α) :
    (front ++ rest).takeWhile p = front.takeWhile p := by
  rw [List.takeWhile_append, if_neg]
  intro hlength
  obtain ⟨x, hx, hp⟩ := h
  have hall := (List.takeWhile_prefix p).eq_of_length hlength
  rw [List.takeWhile_eq_self_iff.1 hall x hx] at hp
  cases hp

/-- Four spaces. -/
theorem all_isBlank_spaces :
    ∀ p ∈ List.replicate 4 (CodePoint.ofChar ' '), p.isBlank = true := by
  intro p hp
  rw [List.eq_of_mem_replicate hp, CodePoint.isBlank_ofChar]
  rfl

theorem indentLine_of_exists {line : List CodePoint} (h : ∃ p ∈ line, p.isBlank = false) :
    indentLine line = List.replicate 4 (.ofChar ' ') ++ line := by
  obtain ⟨p, hp, hblank⟩ := h
  rw [indentLine, if_neg]
  intro hall
  rw [List.all_eq_true.1 hall p hp] at hblank
  cases hblank

/-- Indented lines have four more characters of white space in front, unless there is nothing
else in them. -/
theorem length_takeWhile_indentLine {lines : List (List CodePoint)}
    (h : ∃ p ∈ lines.flatten, p.isBlank = false) (behind : List CodePoint) :
    ((lines.flatMap indentLine ++ behind).takeWhile CodePoint.isBlank).length =
      (lines.flatten.takeWhile CodePoint.isBlank).length + 4 := by
  induction lines with
  | nil =>
    obtain ⟨p, hp, -⟩ := h
    cases hp
  | cons line rest ih =>
    rw [List.flatMap_cons, List.flatten_cons, List.append_assoc]
    by_cases hline : ∃ p ∈ line, p.isBlank = false
    · rw [takeWhile_append_of_exists hline, indentLine_of_exists hline, List.append_assoc,
        List.takeWhile_append_of_pos all_isBlank_spaces, takeWhile_append_of_exists hline,
        List.length_append, List.length_replicate, Nat.add_comm]
    · -- a line of white space alone stays as it is
      have hall : ∀ p ∈ line, p.isBlank = true := by simpa using hline
      have hrest : ∃ p ∈ rest.flatten, p.isBlank = false := by
        obtain ⟨p, hp, hblank⟩ := h
        rcases List.mem_append.1 hp with hp | hp
        · exact absurd ⟨p, hp, hblank⟩ hline
        · exact ⟨p, hp, hblank⟩
      rw [indentLine, if_pos (List.all_eq_true.2 hall), List.takeWhile_append_of_pos hall,
        List.takeWhile_append_of_pos hall, List.length_append, List.length_append, ih hrest,
        Nat.add_assoc]

/-- No text begins like its own indentation, unless it is white space alone. -/
theorem not_prefix_indented {text : List CodePoint} (h : ∃ p ∈ text, p.isBlank = false)
    (behind : List CodePoint) :
    ¬ text <+: (proseLinesFrom [] text).flatMap indentLine ++ behind := by
  rintro ⟨rest, hrest⟩
  have hflatten : (proseLinesFrom [] text).flatten = text := flatten_proseLinesFrom [] text
  have hlength := length_takeWhile_indentLine (hflatten.symm ▸ h) behind
  rw [← hrest, takeWhile_append_of_exists h, hflatten] at hlength
  omega

/-! ## Indented texts -/

/-- A break in a trimmed text stands between more than white space. -/
theorem exists_not_blank_around {text : WideText} {line brk rest : List CodePoint}
    (htrim : text.trim.points = line ++ (brk ++ rest)) (hbrk : brk ≠ [])
    (hblank : ∀ p ∈ brk, p.isBlank = true) :
    (∃ p ∈ line ++ brk, p.isBlank = false) ∧ ∃ p ∈ rest, p.isBlank = false := by
  change dropBothWhile CodePoint.isBlank text.points = _ at htrim
  constructor
  · exact exists_not_of_prefix ⟨rest, by rw [htrim, List.append_assoc]⟩ (by simp [hbrk])
  · obtain ⟨p, hp, hnot⟩ := exists_not_of_suffix ⟨line, htrim.symm⟩ (by simp [hbrk])
    rcases List.mem_append.1 hp with hp | hp
    · rw [hblank p hp] at hnot
      cases hnot
    · exact ⟨p, hp, hnot⟩

/-- A trimmed text is indented as it stands just when nothing in it ends a line of running text. -/
theorem prefix_indent_trim_iff {text : WideText} (htext : text.blank = false)
    (behind : WideText) :
    List.replicate 4 (.ofChar ' ') ++ text.trim.points <+: (indent text.trim ++ behind).points ↔
      ∀ p ∈ text.trim.points, endsProseLine p.val = false := by
  have hne : text.trim.points ≠ [] := by
    rw [Ne, ← List.isEmpty_iff]
    change ¬text.trim.isEmpty = true
    rw [WideText.isEmpty_trim_iff, htext]
    exact Bool.false_ne_true
  rw [WideText.points_append]
  change _ <+: (proseLinesFrom [] text.trim.points).flatMap indentLine ++ behind.points ↔ _
  constructor
  · intro hprefix
    by_contra hfree
    have hbreak : ∃ p ∈ text.trim.points, endsProseLine p.val = true := by simpa using hfree
    obtain ⟨line, brk, rest, htrim, hbrk, hblank, hlines⟩ := exists_proseLinesFrom_eq [] hbreak
    obtain ⟨hline, hrest⟩ := exists_not_blank_around htrim hbrk hblank
    -- the first line and its break stand as they are, so the rest would have to
    rw [hlines, List.reverse_nil, List.nil_append, List.flatMap_cons, indentLine_of_exists hline,
      htrim] at hprefix
    simp only [List.append_assoc, List.prefix_append_right_inj] at hprefix
    exact not_prefix_indented hrest _ hprefix
  · intro hfree
    have hall : ∃ p ∈ text.trim.points, p.isBlank = false :=
      exists_not_of_prefix (List.prefix_refl _) hne
    have hone := proseLinesFrom_eq_singleton [] hfree (by rwa [List.reverse_nil, List.nil_append])
    rw [hone, List.flatMap_singleton, List.reverse_nil, List.nil_append, indentLine_of_exists hall]
    exact List.prefix_append _ _

/-- Trimmed code is indented as it stands just when no character in it ends a line of running
text. -/
theorem prefix_indent_code_iff {code : String} (hcode : blank code = false) (behind : WideText) :
    (WideText.ofString ("    " ++ trim code)).points <+: (indent (trim code) ++ behind).points ↔
      ∀ c ∈ (trim code).toList, endsProseLine c.toNat = false := by
  have hspaces : (WideText.ofString "    ").points = List.replicate 4 (.ofChar ' ') := rfl
  have hwide : (WideText.ofString code).blank = false := by rw [WideText.blank_ofString, hcode]
  have hiff := prefix_indent_trim_iff hwide behind
  rw [← WideText.ofString_trim] at hiff
  rw [WideText.ofString_append, WideText.points_append, hspaces, hiff]
  simp only [WideText.ofString, List.forall_mem_map, CodePoint.val_ofChar]

end Text

/-! ## Flagged code in fixes -/

/-- What a template makes of flagged code: its rationale, the heading, and the code indented. -/
theorem FixTemplate.exists_render_flagged_eq (template : FixTemplate) {code : String}
    (h : Text.blank code = false) :
    ∃ behind, template.render code =
      template.rationale ++ "\n\nFlagged code:\n" ++
        (Text.indent (Text.trim code) ++ behind) := by
  have hflagged : (Text.trim code).isEmpty = false := by
    rw [← WideText.isEmpty_ofString, WideText.ofString_trim, ← Bool.not_eq_true,
      WideText.isEmpty_trim_iff, WideText.blank_ofString, h]
    exact Bool.false_ne_true
  unfold render
  dsimp only
  rw [hflagged, if_neg Bool.false_ne_true, List.append_assoc, List.singleton_append,
    WideText.intercalate_cons_cons]
  obtain ⟨behind, hbehind⟩ := WideText.exists_intercalate_cons_eq "\n\n"
    (fixSection "Flagged code:" (Text.trim code)) _
  have hheading : WideText.ofString "\n\nFlagged code:\n" =
      "\n\n" ++ (WideText.ofString "Flagged code:" ++ "\n") := rfl
  refine ⟨behind, ?_⟩
  rw [hbehind, hheading, fixSection]
  simp only [WideText.append_assoc]

namespace Catalog

variable {catalog : Catalog}

/-- The code of a finding is that of the line of its site. -/
theorem map_code_reported (text : String) (language : Language) (options : ScanOptions) :
    (catalog.reported text language options).map (fun f => (f.rule, f.matchedCode)) =
      (Site.inLines (catalog.reportedRules language) 1 (Text.lines text)).map
        fun site => (site.rule.id, Text.trimEnd site.line) := by
  apply map_reported
  intro site seed n
  obtain ⟨file, fix, h⟩ := options.completed_eq catalog (site.finding seed n)
  rw [h]
  rfl

/-- The code of a finding is on one line, as scans count lines. -/
theorem no_break_in_code {text : String} {language : Language} {options : ScanOptions}
    {finding : Finding} (h : finding ∈ catalog.reported text language options) :
    ∀ c ∈ finding.matchedCode.toList, Text.isBreak c = false := by
  have hcode : (finding.rule, finding.matchedCode) ∈ (catalog.reported text language options).map
      fun f => (f.rule, f.matchedCode) := List.mem_map_of_mem h
  rw [map_code_reported] at hcode
  obtain ⟨site, hsite, heq⟩ := List.mem_map.1 hcode
  obtain ⟨-, -, i, hline, -⟩ := Site.mem_inLines.1 hsite
  obtain ⟨-, hcode⟩ := Prod.mk.inj heq
  intro c hc
  rw [← hcode, Text.trimEnd, String.toList_ofList, Text.dropEndWhile_eq] at hc
  exact Text.no_break_of_mem_lines (List.mem_of_getElem? hline) c
    ((List.rdropWhile_prefix _ _).subset hc)

/-- A reported finding has the fix of its own rule, where fixes are wanted. -/
theorem suggestedFix_of_mem_reported (h : catalog.Built) {text : String} {language : Language}
    {options : ScanOptions} (hresolve : options.resolveFixes = true) {finding : Finding}
    (hfinding : finding ∈ catalog.reported text language options) :
    ∃ rule ∈ catalog.rules, rule.id = finding.rule ∧
      finding.suggestedFix = some (rule.fix.render finding.matchedCode) := by
  have hoptions : options = { options with resolveFixes := true } := by rw [← hresolve]
  rw [hoptions, reported_resolveFixes h] at hfinding
  obtain ⟨plain, hplain, rfl⟩ := List.mem_map.1 hfinding
  obtain ⟨rule, hrule, hid, hfix⟩ := withOwnFix_of_mem_reported h hplain
  exact ⟨rule, hrule, hid, congrArg Finding.suggestedFix hfix⟩

/-! ## The law -/

/-- A scan with fixes gives a report on what can be decoded, unless a rule that cannot be named
hits, and the fix of each finding with code to show has it under a heading, behind the rationale of
the finding's rule. The code has no break in it that scans know. Behind the heading it stands with
four spaces in front, as it is, just when nothing in it ends a line of running text; then the fix
quotes it in one piece. -/
theorem flagged_code_is_quoted_unless_it_ends_a_line_of_prose (hbuilt : catalog.Built)
    {source : Source} {text : String} (hdecode : source.decode = .ok text) (language : Language)
    (options : ScanOptions) :
    ((∃ report, catalog.scan source language { options with resolveFixes := true } = .ok report) ↔
      catalog.Nameable language text) ∧
    ∀ report, catalog.scan source language { options with resolveFixes := true } = .ok report →
      ∀ finding ∈ report.findings, Text.blank finding.matchedCode = false →
        (∀ c ∈ finding.matchedCode.toList, Text.isBreak c = false) ∧
        ∃ rule ∈ catalog.rules, rule.id = finding.rule ∧
          ∃ fix quoted, finding.suggestedFix = some fix ∧
            fix = rule.fix.rationale ++ "\n\nFlagged code:\n" ++ quoted ∧
            ((WideText.ofString ("    " ++ Text.trim finding.matchedCode)).points <+:
                quoted.points ↔
              ∀ c ∈ (Text.trim finding.matchedCode).toList, Text.endsProseLine c.toNat = false) ∧
            ((∀ c ∈ (Text.trim finding.matchedCode).toList, Text.endsProseLine c.toNat = false) →
              (WideText.ofString
                ("Flagged code:\n    " ++ Text.trim finding.matchedCode)).points <:+:
                  fix.points) := by
  refine ⟨exists_scan_eq_ok_iff hbuilt.nodup_ids hdecode, ?_⟩
  intro report hreport finding hfinding hcode
  obtain ⟨-, rfl⟩ := (scan_eq_ok_iff hbuilt.nodup_ids hdecode).1 hreport
  refine ⟨no_break_in_code hfinding, ?_⟩
  obtain ⟨rule, hrule, hid, hfix⟩ := suggestedFix_of_mem_reported hbuilt rfl hfinding
  obtain ⟨behind, hrender⟩ := rule.fix.exists_render_flagged_eq hcode
  have hquoted := Text.prefix_indent_code_iff hcode behind
  refine ⟨rule, hrule, hid, _, _, hfix, hrender, hquoted, fun hfree => ?_⟩
  obtain ⟨rest, hrest⟩ := hquoted.2 hfree
  have hheading : WideText.ofString "\n\nFlagged code:\n" = "\n\n" ++ "Flagged code:\n" := rfl
  have hspaces : "Flagged code:\n    " = "Flagged code:\n" ++ "    " := rfl
  refine ⟨(rule.fix.rationale ++ "\n\n").points, rest, ?_⟩
  rw [hrender, hheading, hspaces]
  simp only [WideText.points_append, WideText.ofString_append, List.append_assoc] at hrest ⊢
  rw [hrest]

/-- Code without anything that ends a line of prose, and code with a form feed in it. -/
theorem flagged_code_in_small_is_quoted_unless_it_ends_a_line_of_prose :
    small.Built ∧ (Source.ofString "b!\n!\x0c!").decode = .ok "b!\n!\x0c!" ∧
    ((∃ report, small.scan (.ofString "b!\n!\x0c!") .go { resolveFixes := true } = .ok report) ↔
      small.Nameable .go "b!\n!\x0c!") ∧
    ∀ report, small.scan (.ofString "b!\n!\x0c!") .go { resolveFixes := true } = .ok report →
      ∀ finding ∈ report.findings, Text.blank finding.matchedCode = false →
        (∀ c ∈ finding.matchedCode.toList, Text.isBreak c = false) ∧
        ∃ rule ∈ small.rules, rule.id = finding.rule ∧
          ∃ fix quoted, finding.suggestedFix = some fix ∧
            fix = rule.fix.rationale ++ "\n\nFlagged code:\n" ++ quoted ∧
            ((WideText.ofString ("    " ++ Text.trim finding.matchedCode)).points <+:
                quoted.points ↔
              ∀ c ∈ (Text.trim finding.matchedCode).toList, Text.endsProseLine c.toNat = false) ∧
            ((∀ c ∈ (Text.trim finding.matchedCode).toList, Text.endsProseLine c.toNat = false) →
              (WideText.ofString
                ("Flagged code:\n    " ++ Text.trim finding.matchedCode)).points <:+:
                  fix.points) :=
  ⟨small_built, Source.decode_ofString _, flagged_code_is_quoted_unless_it_ends_a_line_of_prose
    small_built (Source.decode_ofString _) .go {}⟩

/-- A form feed between two marks is one line of code, and is quoted with four spaces behind the
form feed. -/
theorem code_with_a_form_feed_is_not_quoted :
    ∃ report, small.scan (.ofString "!\x0c!") .go { seed := some "s" } = .ok report ∧
      ∃ finding ∈ report.findings, Text.blank finding.matchedCode = false ∧
        ∃ fix, finding.suggestedFix = some fix ∧
          ¬ (WideText.ofString
            ("Flagged code:\n    " ++ Text.trim finding.matchedCode)).points <:+: fix.points := by
  have hfound : (small.reported "!\x0c!" .go { seed := some "s" }).map (fun finding =>
      (finding.rule, finding.matchedCode)) = [(.ofString "bang", "!\x0c!")] := by
    rw [map_code_reported]
    decide +kernel
  obtain ⟨finding, hfindings, hlook⟩ := List.map_eq_singleton_iff.1 hfound
  have hfinding : finding ∈ small.reported "!\x0c!" .go { seed := some "s" } := by
    rw [hfindings]
    exact List.mem_singleton_self _
  rw [Prod.mk.injEq] at hlook
  obtain ⟨rule, hrule, hid, hfix⟩ := suggestedFix_of_mem_reported small_built rfl hfinding
  have htemplate : rule.fix = ⟨"Keep it quiet.", "", ""⟩ := by
    have hall : ∀ rule ∈ small.rules, rule.id = .ofString "bang" →
        rule.fix = ⟨"Keep it quiet.", "", ""⟩ := by
      decide +kernel
    exact hall rule hrule (hid.trans hlook.1)
  have hrender : (⟨"Keep it quiet.", "", ""⟩ : FixTemplate).render "!\x0c!" =
      "Keep it quiet.\n\nFlagged code:\n    !\x0c    !" := by
    decide +kernel
  rw [htemplate, hlook.2, hrender] at hfix
  have hscan : small.scan (.ofString "!\x0c!") .go { seed := some "s" } =
      .ok (small.reportOn "!\x0c!" .go { seed := some "s" }) :=
    (scan_eq_ok_iff small_built.nodup_ids (Source.decode_ofString "!\x0c!")).2
      ⟨nameable_of_texts small_texts .go _, rfl⟩
  have hlisted : finding ∈ (small.reportOn "!\x0c!" .go { seed := some "s" }).findings := by
    unfold reportOn
    dsimp only
    exact hfinding
  refine ⟨_, hscan, finding, hlisted, ?_, _, hfix, ?_⟩
  · rw [hlook.2]
    decide +kernel
  · rw [hlook.2]
    decide +kernel

end Catalog

end SourceAudit
