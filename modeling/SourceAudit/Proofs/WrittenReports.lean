-- Reports as others read them. Programs read the JSON: the counts, the findings with their
-- severities, and the verdict. People read the table, whose tenth line has the verdict.

import SourceAudit.Proofs.CanonicalLines
import SourceAudit.Proofs.Merging
import SourceAudit.Proofs.WideTexts
import SourceAudit.Report.Json
import SourceAudit.Report.Table

namespace SourceAudit

open SourceAudit.Text (CodePoint)

/-! ## Reading JSON -/

namespace Json

/-- The value under a name, in an object. -/
def field? (name : String) : Json → Option Json
  | object entries => entries.lookup name
  | _ => none

def text? : Json → Option WideText
  | text s => some s
  | _ => none

def int? : Json → Option Int
  | int n => some n
  | _ => none

def bool? : Json → Option Bool
  | bool b => some b
  | _ => none

def items : Json → List Json
  | list items => items
  | _ => []

/-- The findings that a report lists. -/
def listed (report : Json) : List Json :=
  (report.field? "findings").elim [] items

/-- The severity that a finding is listed with. -/
def severity? (finding : Json) : Option Severity :=
  ((finding.field? "severity").bind text?).bind fun name =>
    Severity.all.find? (WideText.ofString ·.name = name)

/-- The severities of the listed findings. -/
def severities (report : Json) : List Severity :=
  report.listed.filterMap severity?

/-- The number under a name in the summary of a report. -/
def counted? (report : Json) (name : String) : Option Int :=
  ((report.field? "summary").bind (field? name)).bind int?

/-- The verdict of a report. -/
def passed? (report : Json) : Option Bool :=
  (report.field? "passed").bind bool?

end Json

/-! ## What JSON says of a report -/

theorem Finding.severity?_json (finding : Finding) :
    finding.json.severity? = some finding.severity := by
  have hnamed : ∀ severity : Severity, Severity.all.find? (fun other =>
      WideText.ofString other.name = .ofString severity.name) = some severity := by
    intro severity
    simp only [WideText.ofString_inj]
    cases severity <;> decide
  exact hnamed finding.severity

namespace Report

variable (report : Report) (threshold : Severity)

theorem listed_verdictJson :
    (report.verdictJson threshold).listed = report.findings.map (·.json) :=
  rfl

theorem severities_verdictJson :
    (report.verdictJson threshold).severities = report.findings.map (·.severity) := by
  unfold Json.severities
  rw [listed_verdictJson, List.filterMap_map, ← List.filterMap_eq_map]
  congr 1
  funext finding
  exact finding.severity?_json

theorem counted?_total :
    (report.verdictJson threshold).counted? "total" = some report.summary.total :=
  rfl

theorem counted?_name (severity : Severity) :
    (report.verdictJson threshold).counted? severity.name =
      some (report.summary.count severity) := by
  cases severity <;> rfl

theorem passed?_verdictJson :
    (report.verdictJson threshold).passed? = some (report.passed threshold) :=
  rfl

end Report

/-! ## Lines of code points -/

namespace WideText

/-- The lines of code points whose first line has begun with `current`, nearest code point first. A
line feed right behind a carriage return ends no line of its own. -/
def linesFrom (behindReturn : Bool) (current : List CodePoint) : List CodePoint → List WideText
  | [] => if current.isEmpty then [] else [⟨current.reverse⟩]
  | p :: rest =>
    if p = .ofChar '\r' then ⟨current.reverse⟩ :: linesFrom true [] rest
    else if p = .ofChar '\n' then
      if behindReturn then linesFrom false current rest
      else ⟨current.reverse⟩ :: linesFrom false [] rest
    else linesFrom false (p :: current) rest

/-- The lines of a text of code points, without their breaks. -/
def lines (text : WideText) : List WideText :=
  linesFrom false [] text.points

theorem linesFrom_true {points : List CodePoint} (h : points.head? ≠ some (.ofChar '\n'))
    (current : List CodePoint) :
    linesFrom true current points = linesFrom false current points := by
  cases points with
  | nil => rfl
  | cons p rest =>
    have hp : p ≠ .ofChar '\n' := fun hfeed => h (congrArg some hfeed)
    rw [linesFrom, linesFrom, if_neg hp, if_neg hp]

theorem linesFrom_map_ofChar (current text : List Char) :
    linesFrom false (current.map .ofChar) (text.map .ofChar) =
      (Text.linesFrom current text).map fun line => ofString (String.ofList line) := by
  have hline : ∀ line : List Char,
      ofString (String.ofList line.reverse) = ⟨(line.map CodePoint.ofChar).reverse⟩ := by
    intro line
    rw [ofString, String.toList_ofList, List.map_reverse]
  have hfeed : CodePoint.ofChar '\n' ≠ .ofChar '\r' := by decide
  fun_induction Text.linesFrom current text with
  | case1 current hempty =>
    rw [List.map_nil, linesFrom, List.isEmpty_map, if_pos hempty, List.map_nil]
  | case2 current hsome =>
    rw [List.map_nil, linesFrom, List.isEmpty_map, if_neg hsome, List.map_singleton, hline]
  | case3 current rest ih =>
    rw [List.map_cons, List.map_cons, List.map_cons, linesFrom, linesFrom, if_pos rfl,
      if_neg hfeed, if_pos rfl, if_pos rfl, hline, ← ih, List.map_nil]
  | case4 current rest hrest ih =>
    have hhead : (rest.map CodePoint.ofChar).head? ≠ some (.ofChar '\n') := by
      cases rest with
      | nil => simp
      | cons c others =>
        rw [List.map_cons, List.head?_cons, Ne, Option.some.injEq, CodePoint.ofChar_inj]
        rintro rfl
        exact hrest others rfl
    rw [List.map_cons, List.map_cons, linesFrom, if_pos rfl, linesFrom_true hhead, hline, ← ih,
      List.map_nil]
  | case5 current rest ih =>
    rw [List.map_cons, List.map_cons, linesFrom, if_neg hfeed, if_pos rfl,
      if_neg Bool.false_ne_true, hline, ← ih, List.map_nil]
  | case6 current c rest hpair hreturn hother ih =>
    have hc : CodePoint.ofChar c ≠ .ofChar '\r' := fun h => hreturn (CodePoint.ofChar_inj.1 h)
    have hd : CodePoint.ofChar c ≠ .ofChar '\n' := fun h => hother (CodePoint.ofChar_inj.1 h)
    rw [List.map_cons, linesFrom, if_neg hc, if_neg hd, ← ih, List.map_cons]

/-- A text of characters has the lines that it has as a text of code points. -/
theorem lines_ofString (text : String) :
    (ofString text).lines = (Text.lines text).map ofString := by
  rw [lines, Text.lines, List.map_map]
  exact linesFrom_map_ofChar [] text.toList

theorem linesFrom_append_feed {text : List Char} (h : ∀ c ∈ text, Text.isBreak c = false)
    (current rest : List CodePoint) :
    linesFrom false current (text.map .ofChar ++ .ofChar '\n' :: rest) =
      ⟨current.reverse ++ text.map .ofChar⟩ :: linesFrom false [] rest := by
  induction text generalizing current with
  | nil =>
    rw [List.map_nil, List.nil_append, List.append_nil, linesFrom, if_neg (by decide), if_pos rfl,
      if_neg Bool.false_ne_true]
  | cons c text ih =>
    obtain ⟨hc, htext⟩ := List.forall_mem_cons.1 h
    have hreturn : CodePoint.ofChar c ≠ .ofChar '\r' := by
      rw [Ne, CodePoint.ofChar_inj]
      rintro rfl
      cases hc
    have hfeed : CodePoint.ofChar c ≠ .ofChar '\n' := by
      rw [Ne, CodePoint.ofChar_inj]
      rintro rfl
      cases hc
    rw [List.map_cons, List.cons_append, linesFrom, if_neg hreturn, if_neg hfeed, ih htext,
      List.reverse_cons, List.append_assoc, List.singleton_append]

/-- A line with a line feed behind it is read as it is, whatever follows. -/
theorem lines_append_feed {line : String} (hfree : ∀ c ∈ line.toList, Text.isBreak c = false)
    (rest : WideText) : (line ++ ("\n" ++ rest)).lines = ofString line :: rest.lines :=
  linesFrom_append_feed hfree [] rest.points

end WideText

/-! ## The table, line by line -/

namespace Text

/-- A text without breaks. -/
def Unbroken (text : String) : Prop :=
  ∀ c ∈ text.toList, isBreak c = false

instance (text : String) : Decidable (Unbroken text) :=
  List.decidableBAll _ _

theorem unbroken_append {first second : String} (hfirst : Unbroken first)
    (hsecond : Unbroken second) : Unbroken (first ++ second) := by
  unfold Unbroken
  rw [String.toList_append]
  exact List.forall_mem_append.2 ⟨hfirst, hsecond⟩

theorem unbroken_replicate {c : Char} (hc : isBreak c = false) (n : Nat) :
    Unbroken (String.ofList (List.replicate n c)) := by
  unfold Unbroken
  rw [String.toList_ofList]
  intro d hd
  rw [List.eq_of_mem_replicate hd, hc]

theorem unbroken_repr (n : Nat) : Unbroken n.repr := by
  unfold Unbroken
  rw [Nat.repr_eq_ofList_toDigits, String.toList_ofList]
  intro c hc
  have hdigit : c.isDigit = true := Nat.isDigit_of_mem_toDigits (by omega) (by omega) hc
  apply isBreak_eq_false
  · rintro rfl
    exact absurd hdigit (by decide)
  · rintro rfl
    exact absurd hdigit (by decide)

theorem unbroken_toString (n : Int) : Unbroken (toString n) := by
  change Unbroken n.repr
  rw [Int.repr_eq_if]
  split
  · exact unbroken_repr _
  · exact unbroken_append (by decide) (unbroken_repr _)

end Text

open SourceAudit.Text (Unbroken)

/-- Lines without breaks are read as they were put together. -/
theorem WideText.lines_intercalate_append {above : List String}
    (habove : ∀ line ∈ above, Unbroken line) {below : List WideText} (hbelow : below ≠ [])
    (rest : WideText) :
    (intercalate "\n" (above.map ofString ++ below) ++ rest).lines =
      above.map ofString ++ (intercalate "\n" below ++ rest).lines := by
  induction above with
  | nil => rfl
  | cons line above ih =>
    obtain ⟨hline, habove⟩ := List.forall_mem_cons.1 habove
    obtain ⟨next, others, hnext⟩ := List.exists_cons_of_ne_nil
      (fun h => hbelow (List.append_eq_nil_iff.1 h).2 : above.map ofString ++ below ≠ [])
    have hih := ih habove
    rw [hnext] at hih
    rw [List.map_cons, List.cons_append, hnext, intercalate_cons_cons, append_assoc, append_assoc,
      lines_append_feed hline, hih, List.cons_append]

namespace Report

theorem unbroken_row {name count : String} (hname : Unbroken name) (hcount : Unbroken count) :
    Unbroken (row name count) := by
  have hblank : ∀ n, Unbroken (String.ofList (List.replicate n ' ')) :=
    Text.unbroken_replicate rfl
  unfold row padEnd padStart
  exact Text.unbroken_append
    (Text.unbroken_append (Text.unbroken_append hname (hblank _)) (by decide))
    (Text.unbroken_append (hblank _) hcount)

theorem unbroken_of_mem_countLines {report : Report} {line : String}
    (h : line ∈ report.countLines) : Unbroken line := by
  have hruler : ∀ {n : Nat} {c : Char}, Text.isBreak c = false → Unbroken (rule n c) :=
    fun hc => Text.unbroken_replicate hc _
  have hrow : ∀ severity : Severity,
      Unbroken (row severity.name (toString (report.summary.count severity))) := by
    intro severity
    apply unbroken_row _ (Text.unbroken_toString _)
    cases severity <;> decide
  simp only [countLines, Summary.rows, List.map_map, List.mem_append, List.mem_cons, List.mem_map,
    List.not_mem_nil, or_false] at h
  rcases h with ((rfl | rfl | rfl | rfl) | ⟨severity, _, rfl⟩) | rfl
  · decide
  · exact hruler rfl
  · exact unbroken_row (by decide) (by decide)
  · exact hruler rfl
  · exact hrow severity
  · exact hruler rfl

theorem unbroken_statusLine (report : Report) (threshold : Severity) :
    Unbroken (report.statusLine threshold) := by
  unfold statusLine
  split <;> decide

theorem unbroken_of_mem_headLines {report : Report} {threshold : Severity} {line : String}
    (h : line ∈ report.headLines threshold) : Unbroken line := by
  simp only [headLines, List.mem_append, List.mem_cons, List.not_mem_nil, or_false] at h
  rcases h with h | rfl | rfl
  · exact unbroken_of_mem_countLines h
  · exact report.unbroken_statusLine threshold
  · exact Text.unbroken_append (by decide) (Text.unbroken_toString _)

/-- Whatever is found, and whatever follows the table, the counts and the verdict stand above. -/
theorem lines_table (report : Report) (limit : Int) (threshold : Severity) (rest : WideText) :
    (report.table limit threshold ++ rest).lines =
      (report.headLines threshold).map .ofString ++
        (WideText.intercalate "\n" (closingLines (report.topFindings limit)) ++ rest).lines := by
  have hclosing : closingLines (report.topFindings limit) ≠ [] := by
    unfold closingLines
    split <;> simp
  unfold table tableLines
  rw [WideText.lines_intercalate_append (fun _ => unbroken_of_mem_headLines) hclosing]

end Report

/-! ## What all of them say -/

/-- The JSON of a report, the table that is printed, and the number that a run ends with tell the
same of the findings that are listed. -/
structure Report.Concordant (json : Json) (output : WideText) (threshold : Severity) (code : Nat) :
    Prop where
  total_eq : json.counted? "total" = some (json.listed.length : Int)
  count_eq : ∀ severity : Severity,
    json.counted? severity.name = some (json.severities.count severity : Int)
  listed_eq : json.severities.length = json.listed.length
  two_iff : code = 2 ↔ ∃ severity ∈ json.severities, threshold ≤ severity ∧ .high ≤ severity
  one_iff : code = 1 ↔ (∃ severity ∈ json.severities, threshold ≤ severity) ∧
    ∀ severity ∈ json.severities, threshold ≤ severity →
      severity ≠ .high ∧ severity ≠ .critical
  zero_iff : code = 0 ↔ ∀ severity ∈ json.severities, ¬ threshold ≤ severity
  passed_eq : json.passed? = some (decide (code = 0))
  status_eq : output.lines[9]? =
    some (.ofString ("Status    : " ++ if code = 0 then "PASS" else "FAIL"))

/-- Assembled reports are written so. -/
theorem Report.Assembled.concordant {report : Report} (h : report.Assembled)
    (limit : Int) (threshold : Severity) (rest : WideText) :
    Concordant (report.verdictJson threshold) (report.table limit threshold ++ rest) threshold
      (report.exitCode threshold) where
  total_eq := by
    obtain ⟨findings, rfl⟩ := h
    rw [counted?_total, (assemble_covers findings).total_eq, listed_verdictJson, List.length_map]
  count_eq severity := by
    rw [counted?_name, h.count_eq, severities_verdictJson, List.count, List.countP_map]
    rfl
  listed_eq := by
    rw [severities_verdictJson, listed_verdictJson, List.length_map, List.length_map]
  two_iff := by
    rw [severities_verdictJson, h.exitCode_eq_two_iff]
    simp only [List.mem_map, exists_exists_and_eq_and]
  one_iff := by
    rw [severities_verdictJson, h.exitCode_eq_one_iff]
    simp only [List.mem_map, exists_exists_and_eq_and, forall_exists_index, and_imp,
      forall_apply_eq_imp_iff₂]
  zero_iff := by
    rw [severities_verdictJson, h.exitCode_eq_zero_iff, List.forall_mem_map]
  passed_eq := by
    rw [passed?_verdictJson]
    rfl
  status_eq := by
    have hcount : report.countLines.length = 9 := rfl
    rw [lines_table, headLines, List.map_append, List.append_assoc,
      List.getElem?_append_right (by rw [List.length_map, hcount]), List.length_map, hcount]
    simp [statusLine, passed]

end SourceAudit
