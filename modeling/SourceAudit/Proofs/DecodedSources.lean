-- What can be scanned: well-formed bytes, code points without surrogates, and nothing else. A text
-- is the same source either way, so that its bytes give the same report.

import SourceAudit.Proofs.Reported
import SourceAudit.Proofs.WellFormedBytes

namespace SourceAudit

open SourceAudit.Text (CodePoint)

/-! ## Decoding -/

namespace Source

theorem decode_bytes_eq_ok_iff {bs : List UInt8} {text : String} :
    (bytes bs).decode = .ok text ↔ Text.utf8 text.toList = bs := by
  rw [← Text.readUtf8_eq_ok_iff]
  unfold decode
  dsimp only
  cases Text.readUtf8 bs with
  | ok cs => simp [String.ext_iff]
  | error fault => simp

theorem exists_decode_bytes_iff {bs : List UInt8} :
    (∃ text, (bytes bs).decode = .ok text) ↔ Text.WellFormed bs := by
  simp only [decode_bytes_eq_ok_iff, Text.wellFormed_iff]
  constructor
  · rintro ⟨text, rfl⟩
    exact ⟨text.toList, rfl⟩
  · rintro ⟨cs, rfl⟩
    exact ⟨String.ofList cs, by rw [String.toList_ofList]⟩

theorem decode_bytes_eq_error {bs : List UInt8} {fault : SourceFault}
    (h : (bytes bs).decode = .error fault) :
    ∃ cause, fault = .notUtf8 cause ∧ Text.readUtf8 bs = .error cause := by
  unfold decode at h
  dsimp only at h
  cases hread : Text.readUtf8 bs with
  | ok cs => rw [hread] at h; cases h
  | error cause =>
    rw [hread] at h
    cases h
    exact ⟨cause, rfl, rfl⟩

theorem decode_points_eq_ok_iff {ps : List CodePoint} {text : String} :
    (points ps).decode = .ok text ↔ text.toList.map CodePoint.ofChar = ps := by
  rw [← Text.readCodePoints_eq_ok_iff]
  unfold decode
  dsimp only
  cases Text.readCodePoints ps with
  | ok cs => simp [String.ext_iff]
  | error fault => simp

theorem exists_decode_points_iff {ps : List CodePoint} :
    (∃ text, (points ps).decode = .ok text) ↔ ∀ p ∈ ps, p.isSurrogate = false := by
  rw [← Text.exists_readCodePoints_iff]
  unfold decode
  dsimp only
  cases Text.readCodePoints ps <;> simp

end Source

/-- The message names a position: its digits stand behind the word, and no digit behind them. -/
def NamesPosition (message : String) (position : Nat) : Prop :=
  ∃ front back, message = front ++ " position " ++ toString position ++ back ∧
    (back.toList.head? = some ':' ∨ back.toList.head? = some '-')

theorem namesPosition_message (fault : Text.Utf8Fault) :
    NamesPosition (SourceFault.message (.notUtf8 fault)) fault.position := by
  have hmessage : SourceFault.message (.notUtf8 fault) =
      "Source is not valid UTF-8: " ++ utf8Message fault := rfl
  rw [hmessage]
  unfold utf8Message span
  dsimp only
  by_cases h : fault.length = 1
  · refine ⟨"Source is not valid UTF-8: 'utf-8' codec can't decode byte 0x" ++
      String.ofList (Text.hexDigits 2 fault.lead.toNat) ++ " in", ": " ++ reason fault.problem, ?_,
      .inl (by simp)⟩
    rw [if_pos h, if_pos h, ← String.toList_inj]
    simp
  · refine ⟨"Source is not valid UTF-8: 'utf-8' codec can't decode bytes in",
      "-" ++ toString (fault.position + fault.length - 1) ++ ": " ++ reason fault.problem, ?_,
      .inr (by simp)⟩
    rw [if_neg h, if_neg h, ← String.toList_inj]
    simp

/-! ## The law -/

/-- Bytes can be scanned just when they are well-formed, and give the one text that they write;
otherwise the message names the length of the longest well-formed stretch that they begin with.
Code points can be scanned just when no surrogate is among them, and give the text of these code
points; nothing else can be scanned. So a text and its bytes give the same report. -/
theorem bytes_and_code_points_give_the_text_they_write :
    (∀ bs : List UInt8,
      ((∃ text, (Source.bytes bs).decode = .ok text) ↔ Text.WellFormed bs) ∧
      (∀ text, (Source.bytes bs).decode = .ok text ↔ Text.utf8 text.toList = bs) ∧
      ∀ fault, (Source.bytes bs).decode = .error fault →
        ∃ cause, fault = .notUtf8 cause ∧
          IsGreatest (Text.wellFormedLengths bs) cause.position ∧
          NamesPosition fault.message cause.position) ∧
    (∀ ps : List CodePoint,
      ((∃ text, (Source.points ps).decode = .ok text) ↔ ∀ p ∈ ps, p.isSurrogate = false) ∧
      ∀ text, (Source.points ps).decode = .ok text ↔ text.toList.map CodePoint.ofChar = ps) ∧
    (∀ value, (Source.other value).decode = .error (.noText value.kindName)) ∧
    ∀ (catalog : Catalog) (text : String) (language : Language) (options : ScanOptions),
      catalog.scan (.bytes (Text.utf8 text.toList)) language options =
        catalog.scan (.ofString text) language options := by
  refine ⟨fun bs => ⟨Source.exists_decode_bytes_iff, fun _ => Source.decode_bytes_eq_ok_iff,
    fun fault hfault => ?_⟩, fun ps => ⟨Source.exists_decode_points_iff, fun _ =>
    Source.decode_points_eq_ok_iff⟩, fun value => rfl, fun catalog text language options => ?_⟩
  · obtain ⟨cause, rfl, hcause⟩ := Source.decode_bytes_eq_error hfault
    exact ⟨cause, rfl, Text.isGreatest_position hcause, namesPosition_message cause⟩
  · have hbytes : (Source.bytes (Text.utf8 text.toList)).decode = .ok text :=
      Source.decode_bytes_eq_ok_iff.2 rfl
    unfold Catalog.scan Catalog.inspect
    rw [hbytes, Source.decode_ofString]

end SourceAudit
