-- The matches of a catalog in a text, before anything is made of them. Each rule for the language
-- has, on each line, just its hits there that are not empty. A match shows a stretch of its line,
-- and matches of one rule on one line do not overlap; all of them come by rule, line and column.

import SourceAudit.Proofs.FilledLines
import SourceAudit.Proofs.SiteFindings

namespace SourceAudit

theorem Rule.stop_le_of_mem_hitsIn {rule : Rule} {line : String} {hit : Pattern.Hit}
    (h : hit ∈ rule.hitsIn line) : hit.stop ≤ line.toList.length := by
  simpa using (Pattern.mem_hitsFrom_le (List.mem_filter.1 h).1).2

/-! ## What a match shows -/

/-- The match shows a stretch of a line with a number: its text is not empty, has no break in it,
and stands in the line at its column. -/
structure RawMatch.Shows (raw : RawMatch) (number : Nat) (line : String) : Prop where
  line_eq : raw.line = number
  filled : raw.text ≠ ""
  no_break : '\r' ∉ raw.text.toList ∧ '\n' ∉ raw.text.toList
  stands : ∃ column : Nat, raw.column = some (column : Int) ∧
    raw.text.toList = (line.toList.drop column).take raw.text.length

namespace Site

theorem toList_text (site : Site) : site.raw.text.toList =
    (site.line.toList.drop site.hit.start).take (site.hit.stop - site.hit.start) := by
  simp [raw, Pattern.Hit.text]

section Hit

variable {site : Site} (hhit : site.hit ∈ site.rule.hitsIn site.line)
include hhit

theorem length_text : site.raw.text.length = site.hit.stop - site.hit.start := by
  have hstop := Rule.stop_le_of_mem_hitsIn hhit
  rw [← String.length_toList, toList_text, List.length_take, List.length_drop]
  omega

/-- The match of a hit ends where the hit ends. -/
theorem place_add_length : site.raw.place + site.raw.text.length = site.hit.stop := by
  have hlt := Rule.lt_of_mem_hitsIn hhit
  rw [length_text hhit]
  simp only [RawMatch.place, raw, Option.getD_some]
  omega

theorem shows_raw (hline : ∀ c ∈ site.line.toList, Text.isBreak c = false) :
    site.raw.Shows site.number site.line := by
  have hlt := Rule.lt_of_mem_hitsIn hhit
  have hfree : ∀ c ∈ site.raw.text.toList, Text.isBreak c = false := by
    intro c hc
    rw [toList_text] at hc
    exact hline c (List.mem_of_mem_drop (List.mem_of_mem_take hc))
  refine ⟨rfl, fun hempty => ?_, ⟨fun h => ?_, fun h => ?_⟩, site.hit.start, rfl, ?_⟩
  · have hlength := length_text hhit
    rw [hempty, String.length_empty] at hlength
    omega
  · cases hfree '\r' h
  · cases hfree '\n' h
  · rw [length_text hhit]
    exact toList_text site

end Hit

/-! ## The order of matches -/

/-- The hits of a rule come line by line, and on a line they do not overlap. -/
theorem ofRule_pairwise (rule : Rule) (number : Nat) (lines : List String) :
    (ofRule rule number lines).Pairwise fun a b =>
      a.number < b.number ∨ a.number = b.number ∧ a.hit.stop ≤ b.hit.start := by
  induction lines generalizing number with
  | nil => exact .nil
  | cons line rest ih =>
    rw [ofRule, List.pairwise_append]
    refine ⟨?_, ih (number + 1), ?_⟩
    · rw [List.pairwise_map]
      exact (rule.hitsIn_apart line).imp fun h => .inr ⟨rfl, h⟩
    · intro a ha b hb
      obtain ⟨hit, -, rfl⟩ := List.mem_map.1 ha
      obtain ⟨-, -, i, -, hnumber⟩ := mem_ofRule.1 hb
      exact .inl (by dsimp only; omega)

end Site

namespace Catalog

variable {catalog : Catalog}

/-- One match comes before another: its rule has the earlier place, or they are of one rule and it
is on an earlier line, or they are also on one line and it is further left. -/
def MatchBefore (catalog : Catalog) (a b : RawMatch) : Prop :=
  ∃ p q, catalog.position? a.rule = some p ∧ catalog.position? b.rule = some q ∧
    (p < q ∨ p = q ∧ (a.line < b.line ∨ a.line = b.line ∧ a.place < b.place))

/-- The sites of all hits of the rules for a language in some lines. -/
def hitSites (catalog : Catalog) (language : Language) (lines : List String) : List Site :=
  (catalog.rulesFor language).flatMap (Site.ofRule · 1 lines)

theorem matches_eq (language : Language) (text : String) :
    catalog.matches language text = (catalog.hitSites language (Text.lines text)).map Site.raw :=
  catalog.matchesInLines_eq language (Text.lines text)

theorem mem_hitSites {language : Language} {lines : List String} {site : Site} :
    site ∈ catalog.hitSites language lines ↔
      (site.rule ∈ catalog.rules ∧ site.rule.appliesTo language = true) ∧
        site.hit ∈ site.rule.hitsIn site.line ∧
          ∃ i, lines[i]? = some site.line ∧ site.number = 1 + i := by
  simp only [hitSites, rulesFor, List.mem_flatMap, List.mem_filter, Site.mem_ofRule]
  constructor
  · rintro ⟨rule, hrule, rfl, hhit, hline⟩
    exact ⟨hrule, hhit, hline⟩
  · rintro ⟨hrule, hhit, hline⟩
    exact ⟨site.rule, hrule, rfl, hhit, hline⟩

section Unique

variable (hids : catalog.ids.Nodup)
include hids

/-- Sites come in the order of the rules; those of one rule line by line, and on a line they do not
overlap. -/
theorem hitSites_pairwise (language : Language) (lines : List String) :
    (catalog.hitSites language lines).Pairwise fun a b =>
      (∃ p q, catalog.position? a.rule.id = some p ∧ catalog.position? b.rule.id = some q ∧
        p < q) ∨
      a.rule = b.rule ∧ (a.number < b.number ∨ a.number = b.number ∧ a.hit.stop ≤ b.hit.start) := by
  rw [hitSites, List.pairwise_flatMap]
  constructor
  · intro rule _
    refine (Site.ofRule_pairwise rule 1 lines).imp_of_mem ?_
    intro a b ha hb hab
    exact .inr ⟨(Site.mem_ofRule.1 ha).1.trans (Site.mem_ofRule.1 hb).1.symm, hab⟩
  · refine (rulesFor_pairwise hids language).imp ?_
    intro r s hrs a ha b hb
    rw [(Site.mem_ofRule.1 ha).1, (Site.mem_ofRule.1 hb).1]
    exact .inl hrs

/-- Matches come in strict order, and those of one rule on one line do not overlap. -/
theorem matches_pairwise (language : Language) (text : String) :
    (catalog.matches language text).Pairwise fun a b => catalog.MatchBefore a b ∧
      (a.rule = b.rule → a.line = b.line → a.place + (a.text.length : Int) ≤ b.place) := by
  rw [matches_eq, List.pairwise_map]
  refine (hitSites_pairwise hids language (Text.lines text)).imp_of_mem ?_
  intro a b ha hb hab
  obtain ⟨⟨hrule, -⟩, hhit, -⟩ := mem_hitSites.1 ha
  have hlt := Rule.lt_of_mem_hitsIn hhit
  rcases hab with ⟨p, q, hp, hq, hpq⟩ | ⟨heq, hab⟩
  · refine ⟨⟨p, q, hp, hq, .inl hpq⟩, fun hid _ => ?_⟩
    rw [show a.rule.id = b.rule.id from hid, hq] at hp
    cases hp
    omega
  · obtain ⟨p, hp⟩ := exists_position?_of_mem hids hrule
    have hp' : catalog.position? b.rule.id = some p := heq ▸ hp
    have hend := Site.place_add_length hhit
    have hplaces : a.raw.place = a.hit.start ∧ b.raw.place = b.hit.start := ⟨rfl, rfl⟩
    have hnumbers : a.raw.line = a.number ∧ b.raw.line = b.number := ⟨rfl, rfl⟩
    rcases hab with hab | ⟨hsame, hab⟩
    · exact ⟨⟨p, p, hp, hp', .inr ⟨rfl, .inl (by omega)⟩⟩, fun _ hline => by omega⟩
    · exact ⟨⟨p, p, hp, hp', .inr ⟨rfl, .inr ⟨by omega, by omega⟩⟩⟩, fun _ _ => by omega⟩

/-- On a line, a rule for the language has just its hits that are not empty. -/
theorem filter_matches {language : Language} {text line : String} {rule : Rule} {i : Nat}
    (hrule : rule ∈ catalog.rules) (happlies : rule.appliesTo language = true)
    (hline : (Text.lines text)[i]? = some line) :
    (catalog.matches language text).filter
        (fun raw => raw.rule = rule.id ∧ raw.line = (i : Int) + 1) =
      (rule.hitsIn line).map fun hit => Site.raw ⟨rule, i + 1, line, hit⟩ := by
  have : Std.Irrefl fun a b : RawMatch => a.place < b.place := ⟨fun a => lt_irrefl a.place⟩
  have : Std.Antisymm fun a b : RawMatch => a.place < b.place :=
    ⟨fun a b hab hba => absurd hab (lt_asymm hba)⟩
  -- both sides come by column, so it is enough that they have the same members
  apply List.Pairwise.eq_of_mem_iff (r := fun a b : RawMatch => a.place < b.place)
  · refine ((matches_pairwise hids language text).filter _).imp_of_mem ?_
    rintro a b ha hb ⟨⟨p, q, hp, hq, hab⟩, -⟩
    have ha := of_decide_eq_true (List.mem_filter.1 ha).2
    have hb := of_decide_eq_true (List.mem_filter.1 hb).2
    rw [ha.1] at hp
    rw [hb.1, hp, Option.some.injEq] at hq
    omega
  · rw [List.pairwise_map]
    refine (rule.hitsIn_pairwise line).imp ?_
    intro a b hab
    exact Int.ofNat_lt.2 hab
  · intro raw
    simp only [matches_eq, List.mem_filter, List.mem_map, mem_hitSites, decide_eq_true_eq]
    constructor
    · rintro ⟨⟨⟨other, number, _, hit⟩, ⟨⟨hmem, -⟩, hhit, j, hj, hnumber⟩, rfl⟩, hid, hi⟩
      obtain rfl : other = rule := rule_eq_of_id_eq hids hmem hrule hid
      have hi : (number : Int) = i + 1 := hi
      have hnumber : number = 1 + j := hnumber
      obtain rfl : j = i := by omega
      obtain rfl : number = j + 1 := by omega
      rw [hline, Option.some.injEq] at hj
      subst hj
      exact ⟨hit, hhit, rfl⟩
    · rintro ⟨hit, hhit, rfl⟩
      exact ⟨⟨⟨rule, i + 1, line, hit⟩, ⟨⟨hrule, happlies⟩, hhit, i, hline, Nat.add_comm i 1⟩, rfl⟩,
        rfl, rfl⟩

end Unique

/-! ## The law -/

/-- The matches in a text are exact: on each line, each rule for the language has just its hits that
are not empty, from left to right. Every match is one of such a rule and shows a stretch of one of
the lines; those of one rule on one line do not overlap, and all of them are in strict order by
rule, line and column. -/
theorem matches_are_the_hits_of_each_rule_on_each_line (hids : catalog.ids.Nodup)
    (language : Language) (text : String) :
    (∀ rule ∈ catalog.rules, rule.appliesTo language = true →
      ∀ (i : Nat) line, (Text.lines text)[i]? = some line →
        (catalog.matches language text).filter
            (fun raw => raw.rule = rule.id ∧ raw.line = (i : Int) + 1) =
          (rule.hitsIn line).map fun hit => Site.raw ⟨rule, i + 1, line, hit⟩) ∧
    (∀ raw ∈ catalog.matches language text,
      ∃ rule ∈ catalog.rules, rule.appliesTo language = true ∧ raw.rule = rule.id ∧
        (1 ≤ raw.line ∧ raw.line ≤ (Text.lines text).length) ∧
        ∃ (i : Nat) (line : String), (Text.lines text)[i]? = some line ∧ raw.Shows (i + 1) line) ∧
    (catalog.matches language text).Pairwise (fun a b =>
      a.rule = b.rule → a.line = b.line → a.place + (a.text.length : Int) ≤ b.place) ∧
    (catalog.matches language text).Pairwise catalog.MatchBefore := by
  have hpairwise := matches_pairwise hids language text
  refine ⟨fun rule hrule happlies i line hline => filter_matches hids hrule happlies hline, ?_,
    hpairwise.imp And.right, hpairwise.imp And.left⟩
  intro raw hraw
  rw [matches_eq] at hraw
  obtain ⟨site, hsite, rfl⟩ := List.mem_map.1 hraw
  obtain ⟨⟨hrule, happlies⟩, hhit, i, hline, hnumber⟩ := mem_hitSites.1 hsite
  have hfree := Text.no_break_of_mem_lines (List.mem_of_getElem? hline)
  have hshows := Site.shows_raw hhit hfree
  have hlast := (List.getElem?_eq_some_iff.1 hline).1
  rw [hnumber, Nat.add_comm 1 i] at hshows
  refine ⟨site.rule, hrule, happlies, rfl, ⟨?_, ?_⟩, i, site.line, hline, hshows⟩
  · rw [hshows.line_eq]
    omega
  · rw [hshows.line_eq]
    omega

/-- A rule with empty hits in front of others, two rules that hit one line, and lines with all
three breaks. -/
theorem matches_in_small_are_the_hits_of_each_rule_on_each_line :
    small.ids.Nodup ∧
    (∀ rule ∈ small.rules, rule.appliesTo .go = true →
      ∀ (i : Nat) line, (Text.lines "a!!b!\r\n!\rb!\n")[i]? = some line →
        (small.matches .go "a!!b!\r\n!\rb!\n").filter
            (fun raw => raw.rule = rule.id ∧ raw.line = (i : Int) + 1) =
          (rule.hitsIn line).map fun hit => Site.raw ⟨rule, i + 1, line, hit⟩) ∧
    (∀ raw ∈ small.matches .go "a!!b!\r\n!\rb!\n",
      ∃ rule ∈ small.rules, rule.appliesTo .go = true ∧ raw.rule = rule.id ∧
        (1 ≤ raw.line ∧ raw.line ≤ (Text.lines "a!!b!\r\n!\rb!\n").length) ∧
        ∃ (i : Nat) (line : String), (Text.lines "a!!b!\r\n!\rb!\n")[i]? = some line ∧
          raw.Shows (i + 1) line) ∧
    (small.matches .go "a!!b!\r\n!\rb!\n").Pairwise (fun a b =>
      a.rule = b.rule → a.line = b.line → a.place + (a.text.length : Int) ≤ b.place) ∧
    (small.matches .go "a!!b!\r\n!\rb!\n").Pairwise small.MatchBefore :=
  ⟨small_built.nodup_ids, matches_are_the_hits_of_each_rule_on_each_line small_built.nodup_ids .go
    "a!!b!\r\n!\rb!\n"⟩

end Catalog

end SourceAudit
