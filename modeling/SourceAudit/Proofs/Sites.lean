-- Sites: the places that findings tell of. A rule has a site on each line where it hits, at its
-- first hit that is not empty. Matches are made rule by rule and findings come line by line; the
-- sites of a catalog, taken line by line, say what becomes of the matches in between.

import SourceAudit.Scan
import SourceAudit.Proofs.BuiltCatalog
import SourceAudit.Proofs.Collapse
import SourceAudit.Proofs.HitOrder

namespace SourceAudit

/-! ## The hits of a rule in a line -/

/-- The hits of a rule in one line, except the empty ones. -/
def Rule.hitsIn (rule : Rule) (line : String) : List Pattern.Hit :=
  (rule.pattern.hits line.toList.toArray).filter fun hit => hit.start < hit.stop

theorem Rule.lt_of_mem_hitsIn {rule : Rule} {line : String} {hit : Pattern.Hit}
    (h : hit ∈ rule.hitsIn line) : hit.start < hit.stop := by
  simpa using (List.mem_filter.1 h).2

/-- A hit ends before the next one begins. -/
theorem Rule.hitsIn_apart (rule : Rule) (line : String) :
    (rule.hitsIn line).Pairwise fun a b => a.stop ≤ b.start := by
  have h := (rule.pattern.hitsFrom_pairwise line.toList.toArray 0 false).filter
    fun hit => decide (hit.start < hit.stop)
  refine h.imp_of_mem ?_
  intro a b ha _ hab
  exact hab.2 (lt_of_mem_hitsIn ha)

theorem Rule.hitsIn_pairwise (rule : Rule) (line : String) :
    (rule.hitsIn line).Pairwise fun a b => a.start < b.start := by
  refine (rule.hitsIn_apart line).imp_of_mem ?_
  intro a b ha _ hab
  exact Nat.lt_of_lt_of_le (lt_of_mem_hitsIn ha) hab

/-- On an empty line there is nothing to hit. -/
theorem Rule.hitsIn_empty (rule : Rule) : rule.hitsIn "" = [] := by
  unfold hitsIn
  rw [List.filter_eq_nil_iff]
  intro hit h
  simpa using Pattern.hits_empty h

/-! ## Sites -/

/-- A hit of a rule in a line with its number. -/
structure Site where
  rule : Rule
  number : Nat
  line : String
  hit : Pattern.Hit

namespace Site

/-- The match that is made of a hit. -/
def raw (site : Site) : RawMatch where
  rule := site.rule.id
  line := site.number
  column := some site.hit.start
  text := String.ofList (site.hit.text site.line.toList.toArray)

/-- All hits of a rule in lines that are numbered from `number` on. -/
def ofRule (rule : Rule) (number : Nat) : List String → List Site
  | [] => []
  | line :: rest => (rule.hitsIn line).map (⟨rule, number, line, ·⟩) ++ ofRule rule (number + 1) rest

/-- The first hits of rules in a line. -/
def onLine (rules : List Rule) (number : Nat) (line : String) : List Site :=
  rules.filterMap fun rule => (rule.hitsIn line).head?.map (⟨rule, number, line, ·⟩)

/-- The first hits of rules in each of several lines, numbered from `number` on. -/
def inLines (rules : List Rule) (number : Nat) : List String → List Site
  | [] => []
  | line :: rest => onLine rules number line ++ inLines rules (number + 1) rest

/-! ### What the sites are -/

theorem mem_ofRule {rule : Rule} {number : Nat} {lines : List String} {site : Site} :
    site ∈ ofRule rule number lines ↔
      site.rule = rule ∧ site.hit ∈ rule.hitsIn site.line ∧
        ∃ i, lines[i]? = some site.line ∧ site.number = number + i := by
  induction lines generalizing number with
  | nil => simp [ofRule]
  | cons line rest ih =>
    simp only [ofRule, List.mem_append, List.mem_map, ih]
    constructor
    · rintro (⟨hit, hmem, rfl⟩ | ⟨hrule, hhit, i, hline, hnumber⟩)
      · exact ⟨rfl, hmem, 0, rfl, rfl⟩
      · exact ⟨hrule, hhit, i + 1, by simpa using hline, by omega⟩
    · rintro ⟨rfl, hhit, i, hline, hnumber⟩
      cases i with
      | zero =>
        obtain rfl : line = site.line := by simpa using hline
        exact Or.inl ⟨site.hit, hhit, by rw [← Nat.add_zero number, ← hnumber]⟩
      | succ i => exact Or.inr ⟨rfl, hhit, i, by simpa using hline, by omega⟩

theorem mem_onLine {rules : List Rule} {number : Nat} {line : String} {site : Site} :
    site ∈ onLine rules number line ↔
      site.rule ∈ rules ∧ (site.rule.hitsIn site.line).head? = some site.hit ∧
        site.line = line ∧ site.number = number := by
  simp only [onLine, List.mem_filterMap, Option.map_eq_some_iff]
  constructor
  · rintro ⟨rule, hrule, hit, hhit, rfl⟩
    exact ⟨hrule, hhit, rfl, rfl⟩
  · rintro ⟨hrule, hhit, rfl, rfl⟩
    exact ⟨site.rule, hrule, site.hit, hhit, rfl⟩

theorem mem_inLines {rules : List Rule} {number : Nat} {lines : List String} {site : Site} :
    site ∈ inLines rules number lines ↔
      site.rule ∈ rules ∧ (site.rule.hitsIn site.line).head? = some site.hit ∧
        ∃ i, lines[i]? = some site.line ∧ site.number = number + i := by
  induction lines generalizing number with
  | nil => simp [inLines]
  | cons line rest ih =>
    simp only [inLines, List.mem_append, mem_onLine, ih]
    constructor
    · rintro (⟨hrule, hhit, hline, hnumber⟩ | ⟨hrule, hhit, i, hline, hnumber⟩)
      · exact ⟨hrule, hhit, 0, by simp [hline], hnumber⟩
      · exact ⟨hrule, hhit, i + 1, by simpa using hline, by omega⟩
    · rintro ⟨hrule, hhit, i, hline, hnumber⟩
      cases i with
      | zero => exact Or.inl ⟨hrule, hhit, by simpa using hline.symm, hnumber⟩
      | succ i => exact Or.inr ⟨hrule, hhit, i, by simpa using hline, by omega⟩

/-- Sites come line by line, and on a line in the order of the rules. -/
theorem inLines_pairwise {R : Rule → Rule → Prop} {rules : List Rule} (hrules : rules.Pairwise R)
    (number : Nat) (lines : List String) :
    (inLines rules number lines).Pairwise fun a b =>
      a.number < b.number ∨ a.number = b.number ∧ R a.rule b.rule := by
  induction lines generalizing number with
  | nil => exact .nil
  | cons line rest ih =>
    simp only [inLines, List.pairwise_append]
    refine ⟨?_, ih (number + 1), ?_⟩
    · unfold onLine
      rw [List.pairwise_filterMap]
      refine hrules.imp ?_
      intro a b hab s hs t ht
      obtain ⟨_, _, rfl⟩ := Option.map_eq_some_iff.1 hs
      obtain ⟨_, _, rfl⟩ := Option.map_eq_some_iff.1 ht
      exact Or.inr ⟨rfl, hab⟩
    · intro a ha b hb
      obtain ⟨_, _, _, hnumber⟩ := mem_onLine.1 ha
      obtain ⟨_, _, i, _, hi⟩ := mem_inLines.1 hb
      exact Or.inl (by omega)

/-- The sites on one of several lines. -/
theorem inLines_filter_number (rules : List Rule) {number i : Nat} {lines : List String}
    {line : String} (h : lines[i]? = some line) :
    (inLines rules number lines).filter (fun site => site.number = number + i) =
      onLine rules (number + i) line := by
  induction lines generalizing number i with
  | nil => simp at h
  | cons first rest ih =>
    rw [inLines, List.filter_append]
    cases i with
    | zero =>
      obtain rfl : first = line := by simpa using h
      have hkeep : (onLine rules number first).filter (fun site => site.number = number + 0) =
          onLine rules number first := by
        rw [List.filter_eq_self]
        intro site hsite
        simpa using (mem_onLine.1 hsite).2.2.2
      have hdrop : (inLines rules (number + 1) rest).filter
          (fun site => site.number = number + 0) = [] := by
        rw [List.filter_eq_nil_iff]
        intro site hsite
        obtain ⟨_, _, j, _, hj⟩ := mem_inLines.1 hsite
        simp only [decide_eq_true_eq]
        omega
      rw [hkeep, hdrop, List.append_nil]
      rfl
    | succ i =>
      have hfurther : number + (i + 1) = number + 1 + i := by omega
      have hdrop : (onLine rules number first).filter
          (fun site => site.number = number + 1 + i) = [] := by
        rw [List.filter_eq_nil_iff]
        intro site hsite
        have hnumber := (mem_onLine.1 hsite).2.2.2
        simp only [decide_eq_true_eq]
        omega
      rw [hfurther, hdrop, List.nil_append, ih (by simpa using h)]

/-! ### Fewer rules, more lines, other numbers -/

theorem onLine_filter (keep : Rule → Bool) (rules : List Rule) (number : Nat) (line : String) :
    (onLine rules number line).filter (keep ·.rule) = onLine (rules.filter keep) number line := by
  unfold onLine
  rw [List.filter_filterMap, List.filterMap_filter]
  congr 1
  funext rule
  cases (rule.hitsIn line).head? <;> cases h : keep rule <;> simp [h, Option.filter]

theorem inLines_filter (keep : Rule → Bool) (rules : List Rule) (number : Nat)
    (lines : List String) :
    (inLines rules number lines).filter (keep ·.rule) =
      inLines (rules.filter keep) number lines := by
  induction lines generalizing number with
  | nil => rfl
  | cons line rest ih => simp only [inLines, List.filter_append, onLine_filter, ih]

theorem inLines_append (rules : List Rule) (number : Nat) (first second : List String) :
    inLines rules number (first ++ second) =
      inLines rules number first ++ inLines rules (number + first.length) second := by
  induction first generalizing number with
  | nil => rfl
  | cons line rest ih =>
    simp only [List.cons_append, inLines, ih, List.append_assoc, List.length_cons]
    congr 3
    omega

/-- The same site a number of lines further down. -/
def down (site : Site) (lines : Nat) : Site :=
  { site with number := site.number + lines }

theorem inLines_down (rules : List Rule) (number shift : Nat) (lines : List String) :
    inLines rules (number + shift) lines = (inLines rules number lines).map (·.down shift) := by
  induction lines generalizing number with
  | nil => rfl
  | cons line rest ih =>
    simp only [inLines, List.map_append, ← ih, Nat.add_right_comm number shift 1]
    congr 1
    unfold onLine
    rw [List.map_filterMap]
    congr 1
    funext rule
    cases (rule.hitsIn line).head? <;> rfl

end Site

end SourceAudit
