-- What identifiers are made of. The parts of a payload stand one behind another with a mark between
-- them, and a part may have that mark itself. The payload of a finding ends in two numbers and so
-- tells all of its parts; that of a scan does not, if the code has a zero or a file has one.

import SourceAudit.Proofs.AggregatedMatches
import SourceAudit.Proofs.Utf8ReadBack
import Mathlib.Data.List.Nodup

namespace SourceAudit

/-! ## Two cuts of one list -/

/-- Two cuts at a mark are the same one, or the part between them stands at the end of the front of
one and at the beginning of the back of the other. -/
theorem append_cons_eq_append_cons_iff {α : Type} {mark : α} {front back front' back' : List α} :
    front ++ mark :: back = front' ++ mark :: back' ↔
      front = front' ∧ back = back' ∨
        (∃ between, front' = front ++ mark :: between ∧ back = between ++ mark :: back') ∨
        ∃ between, front = front' ++ mark :: between ∧ back' = between ++ mark :: back := by
  constructor
  · intro h
    rcases List.append_eq_append_iff.1 h with ⟨t, rfl, hback⟩ | ⟨t, rfl, hback⟩
    · cases t with
      | nil => simpa [eq_comm] using hback
      | cons m between =>
        obtain ⟨rfl, rfl⟩ := List.cons.inj hback
        exact .inr (.inl ⟨between, rfl, rfl⟩)
    · cases t with
      | nil => simpa [eq_comm] using hback
      | cons m between =>
        obtain ⟨rfl, rfl⟩ := List.cons.inj hback
        exact .inr (.inr ⟨between, rfl, rfl⟩)
  · rintro (⟨rfl, rfl⟩ | ⟨between, rfl, rfl⟩ | ⟨between, rfl, rfl⟩) <;> simp

/-- A cut behind which the mark does not come again is the only one. -/
theorem append_cons_inj_of_notMem_back {α : Type} {mark : α} {front back front' back' : List α}
    (hback : mark ∉ back) (hback' : mark ∉ back')
    (h : front ++ mark :: back = front' ++ mark :: back') : front = front' ∧ back = back' := by
  rcases append_cons_eq_append_cons_iff.1 h with h | ⟨between, -, rfl⟩ | ⟨between, -, rfl⟩
  · exact h
  · simp at hback
  · simp at hback'

namespace Identity

theorem bytes_append (first second : String) :
    bytes (first ++ second) = bytes first ++ bytes second := by
  simp only [bytes, String.toList_append, Text.utf8_append]

theorem bytes_injective {first second : String} (h : bytes first = bytes second) :
    first = second :=
  String.toList_inj.1 (Text.utf8_injective h)

/-! ## Payloads of findings -/

theorem isDigit_of_mem_repr {n : Nat} {c : Char} (h : c ∈ n.repr.toList) : c.isDigit = true := by
  rw [Nat.repr_eq_ofList_toDigits, String.toList_ofList] at h
  exact Nat.isDigit_of_mem_toDigits (by omega) (by omega) h

theorem repr_injective {m n : Nat} (h : m.repr = n.repr) : m = n := by
  rw [Nat.repr_eq_ofList_toDigits, Nat.repr_eq_ofList_toDigits, String.ofList_inj] at h
  rw [← Nat.ofDigitChars_toDigits (n := m) (by omega : 1 < 10) (by omega), h,
    Nat.ofDigitChars_toDigits (by omega) (by omega)]

/-- A number with a sign is written otherwise than one without. -/
theorem neg_append_repr_ne (m n : Nat) : "-" ++ m.repr ≠ n.repr := by
  intro h
  have hsign : '-' ∈ n.repr.toList := by simp [← h]
  exact absurd (isDigit_of_mem_repr hsign) (by decide)

theorem toString_injective {m n : Int} (h : toString m = toString n) : m = n := by
  change m.repr = n.repr at h
  rw [Int.repr_eq_if, Int.repr_eq_if] at h
  split at h <;> split at h
  · have := repr_injective h
    omega
  · exact absurd h.symm (neg_append_repr_ne _ _)
  · exact absurd h (neg_append_repr_ne _ _)
  · have := repr_injective (String.append_right_inj _ |>.1 h)
    omega

theorem colon_notMem_toString (n : Int) : ':' ∉ (toString n).toList := by
  have hdigits : ∀ m : Nat, ':' ∉ m.repr.toList := fun m hcolon =>
    absurd (isDigit_of_mem_repr hcolon) (by decide)
  change ':' ∉ n.repr.toList
  rw [Int.repr_eq_if]
  split
  · exact hdigits _
  · rw [String.toList_append, List.mem_append]
    rintro (h | h)
    · exact absurd h (by decide)
    · exact hdigits _ h

/-- A text in front of a colon and a number tells both. -/
theorem eq_of_colon_toString {front front' : String} {n n' : Int}
    (h : front ++ ":" ++ toString n = front' ++ ":" ++ toString n') : front = front' ∧ n = n' := by
  have hlists : front.toList ++ ':' :: (toString n).toList =
      front'.toList ++ ':' :: (toString n').toList := by
    simpa using congrArg String.toList h
  obtain ⟨hfront, hnumber⟩ := append_cons_inj_of_notMem_back (colon_notMem_toString n)
    (colon_notMem_toString n') hlists
  exact ⟨String.toList_inj.1 hfront, toString_injective (String.toList_inj.1 hnumber)⟩

/-- The payload of a finding tells its rule, its line and its ordinal, whatever the rule is called
and whatever the numbers are. -/
theorem eq_of_findingPayload_eq {seed rule rule' : String} {line line' n n' : Int}
    (h : findingPayload seed rule line n = findingPayload seed rule' line' n') :
    rule = rule' ∧ line = line' ∧ n = n' := by
  obtain ⟨hfront, hn⟩ := eq_of_colon_toString h
  obtain ⟨hrule, hline⟩ := eq_of_colon_toString hfront
  have hlists := congrArg String.toList hrule
  simp only [String.toList_append, List.append_assoc] at hlists
  exact ⟨String.toList_inj.1 (List.append_cancel_left (List.append_cancel_left hlists)), hline, hn⟩

/-- The identifier that a payload is digested to. -/
def ofPayload (payload : String) : String :=
  "vuln-" ++ String.ofList ((Digest.sha256Hex (bytes payload)).take 12)

end Identity

/-- The payloads of the identifiers of findings, each with the number of findings of its rule in
front of it. -/
def payloads (seed : String) (findings : List Finding) : List String :=
  findings.mapIdx fun i finding =>
    Identity.findingPayload seed finding.rule.characters finding.location.line
      ((findings.take i).countP (·.rule = finding.rule) : Nat)

/-- A member is found again among those with a property, behind as many of them as stand in front
of it. -/
theorem getElem?_filter_countP {α : Type} {p : α → Bool} {xs : List α} {i : Nat} {x : α}
    (hx : xs[i]? = some x) (hp : p x = true) :
    (xs.filter p)[(xs.take i).countP p]? = some x := by
  obtain ⟨hi, rfl⟩ := List.getElem?_eq_some_iff.1 hx
  have hcut : xs = xs.take i ++ xs[i] :: xs.drop (i + 1) := by simp
  have hfilter : xs.filter p = (xs.take i).filter p ++ xs[i] :: (xs.drop (i + 1)).filter p := by
    rw [← List.filter_cons_of_pos hp, ← List.filter_append, ← hcut]
  rw [hfilter, List.countP_eq_length_filter, List.getElem?_append_right (le_refl _), Nat.sub_self]
  rfl

/-- The rules of the findings that aggregation gives have texts of characters for their
identifiers. -/
theorem rule_eq_characters_of_aggregate {catalog : Catalog} {lines : List String} {seed : String}
    {raws : List RawMatch} {findings : List Finding}
    (h : aggregate catalog lines seed raws = .ok findings) :
    ∀ finding ∈ findings, finding.rule = finding.rule.characters := by
  intro finding hfinding
  obtain ⟨raw, hraw, hsubject⟩ := List.mem_map.1
    ((mem_subjects_of_aggregate h).1 (List.mem_map_of_mem hfinding))
  obtain ⟨-, htexts, -⟩ := exists_aggregate_eq_ok_iff.1 ⟨findings, h⟩
  obtain ⟨id, hid⟩ := htexts raw hraw
  have hrule : finding.rule = id := (congrArg Prod.fst hsubject).symm.trans hid
  rw [hrule, WideText.characters_ofString]

/-- Aggregation digests just these payloads. -/
theorem map_id_of_aggregate {catalog : Catalog} {lines : List String} {seed : String}
    {raws : List RawMatch} {findings : List Finding}
    (h : aggregate catalog lines seed raws = .ok findings) :
    findings.map (·.id) = (payloads seed findings).map Identity.ofPayload := by
  obtain ⟨ps, -, -, hfindings⟩ := exists_chosen_of_aggregate h
  apply List.ext_getElem?
  intro i
  rw [List.getElem?_map, List.getElem?_map, payloads, List.getElem?_mapIdx]
  cases hi : findings[i]? with
  | none => rfl
  | some finding =>
    obtain ⟨rule, hrule⟩ : ∃ rule : String, finding.rule = rule :=
      ⟨_, rule_eq_characters_of_aggregate h finding (List.mem_of_getElem? hi)⟩
    have hkth := getElem?_filter_countP (p := (·.rule = .ofString rule)) hi (by simp [hrule])
    have hid := Aggregate.id_of_findingsFrom hfindings hkth
    simp only [Aggregate.Tally.count, List.lookup_nil, Option.getD_none, Nat.zero_add] at hid
    simp only [Option.map_some, hid, hrule, WideText.characters_ofString]
    rfl

/-- No two findings have the same payload: where they are of one rule, more of its findings stand
in front of the later one. -/
theorem nodup_payloads (seed : String) {findings : List Finding}
    (hrules : ∀ finding ∈ findings, finding.rule = finding.rule.characters) :
    ((payloads seed findings).map Identity.bytes).Nodup := by
  refine List.Nodup.map (fun _ _ => Identity.bytes_injective) ?_
  rw [List.Nodup, List.pairwise_iff_getElem]
  intro i j hi hj hij heq
  simp only [payloads, List.getElem_mapIdx] at heq
  obtain ⟨hcharacters, -, hcount⟩ := Identity.eq_of_findingPayload_eq heq
  rw [payloads, List.length_mapIdx] at hi hj
  have hrule : findings[i].rule = findings[j].rule := by
    rw [hrules _ (List.getElem_mem hi), hcharacters, ← hrules _ (List.getElem_mem hj)]
  have hone : (findings.take (i + 1)).countP (·.rule = findings[j].rule) =
      (findings.take i).countP (·.rule = findings[j].rule) + 1 := by
    rw [List.take_succ_eq_append_getElem hi, List.countP_append, List.countP_singleton]
    simp [hrule]
  have hmore : (findings.take (i + 1)).countP (·.rule = findings[j].rule) ≤
      (findings.take j).countP (·.rule = findings[j].rule) :=
    (List.take_sublist_take_left hij).countP_le
  rw [hrule] at hcount
  omega

/-! ## The law of findings -/

/-- Under one seed the bytes of a payload tell its rule, its line and its ordinal. So the
identifiers of the findings that aggregation gives, whose rules are all named by texts of
characters, are digests of payloads of which no two are alike. -/
theorem payloads_tell_findings_apart (seed : String) :
    (∀ (rule rule' : String) (line line' n n' : Int),
      Identity.bytes (Identity.findingPayload seed rule line n) =
          Identity.bytes (Identity.findingPayload seed rule' line' n') →
        rule = rule' ∧ line = line' ∧ n = n') ∧
      ∀ (catalog : Catalog) (lines : List String) (raws : List RawMatch) (findings : List Finding),
        aggregate catalog lines seed raws = .ok findings →
          (∀ finding ∈ findings, finding.rule = finding.rule.characters) ∧
            findings.map (·.id) = (payloads seed findings).map Identity.ofPayload ∧
            ((payloads seed findings).map Identity.bytes).Nodup := by
  refine ⟨fun rule rule' line line' n n' hbytes => ?_, fun catalog lines raws findings h => ?_⟩
  · exact Identity.eq_of_findingPayload_eq (Identity.bytes_injective hbytes)
  · have hrules := rule_eq_characters_of_aggregate h
    exact ⟨hrules, map_id_of_aggregate h, nodup_payloads seed hrules⟩

/-- Two matches of one rule, the first one on the later line, under a seed with a colon. -/
theorem payloads_tell_two_bangs_apart :
    let raws : List RawMatch := [⟨"bang", 2, some 3, "!"⟩, ⟨"bang", 1, some 0, "!"⟩]
    ∃ findings, aggregate Catalog.small ["!", "a !"] "s:0" raws = .ok findings ∧
      findings.map (·.id) = (payloads "s:0" findings).map Identity.ofPayload ∧
      ((payloads "s:0" findings).map Identity.bytes).Nodup := by
  intro raws
  have hraws : ∀ raw ∈ raws,
      raw.rule ∈ Catalog.small.ids ∧ 1 ≤ raw.line ∧ raw.line ≤ ["!", "a !"].length := by
    decide +kernel
  have htexts : ∀ raw ∈ raws, ∃ id : String, raw.rule = id :=
    List.forall_mem_cons.2 ⟨⟨"bang", rfl⟩, List.forall_mem_singleton.2 ⟨"bang", rfl⟩⟩
  obtain ⟨findings, h⟩ := (exists_aggregate_eq_ok_iff_of_mem hraws).2 htexts
  exact ⟨findings, h, ((payloads_tell_findings_apart "s:0").2 _ _ _ _ h).2⟩

/-! ## Payloads of scans -/

namespace Identity

/-- What stands between the language and the code: a file has a zero behind it. -/
def heading : Option String → String
  | some file => file ++ "\x00"
  | none => ""

theorem zero_notMem_bytes_name (language : Language) : 0 ∉ bytes language.name := by
  cases language <;> decide

theorem eq_of_bytes_name_eq {language language' : Language}
    (h : bytes language.name = bytes language'.name) : language = language' := by
  have hname := bytes_injective h
  revert hname
  cases language <;> cases language' <;> decide

theorem fingerprintPayload_eq (language : Language) (file : Option String) (code : String) :
    fingerprintPayload language file code =
      bytes language.name ++ 0 :: bytes (heading file ++ code) := by
  have hzero : bytes "\x00" = [0] := by decide
  cases file with
  | none => simp [fingerprintPayload, heading]
  | some file => simp [fingerprintPayload, heading, bytes_append, hzero]

/-- A payload tells the language, and what stands behind it taken together. -/
theorem fingerprintPayload_eq_iff {language language' : Language} {file file' : Option String}
    {code code' : String} :
    fingerprintPayload language file code = fingerprintPayload language' file' code' ↔
      language = language' ∧ heading file ++ code = heading file' ++ code' := by
  rw [fingerprintPayload_eq, fingerprintPayload_eq]
  constructor
  · intro h
    -- no name of a language has a zero, so the first one ends it
    rcases append_cons_eq_append_cons_iff.1 h with
      ⟨hname, htext⟩ | ⟨between, hname, -⟩ | ⟨between, hname, -⟩
    · exact ⟨eq_of_bytes_name_eq hname, bytes_injective htext⟩
    · exact absurd (hname ▸ by simp) (zero_notMem_bytes_name language')
    · exact absurd (hname ▸ by simp) (zero_notMem_bytes_name language)
  · rintro ⟨rfl, htext⟩
    rw [htext]

/-- Of two files with their codes, the code of the first one begins with what is the file of the
second, or the end of that file, and a zero. -/
inductive Shifted : Option String × String → Option String × String → Prop
  | named (file code : String) : Shifted (none, file ++ "\x00" ++ code) (some file, code)
  | longer (file rest code : String) :
      Shifted (some file, rest ++ "\x00" ++ code) (some (file ++ "\x00" ++ rest), code)

/-- The two are the same, or one of them is the other with its zero shifted. -/
def Alike (first second : Option String × String) : Prop :=
  first = second ∨ Shifted first second ∨ Shifted second first

/-- A file that goes on behind a zero takes that part from the front of the code. -/
theorem Shifted.of_between {file file' code code' : String} {between : List Char}
    (hfile : file'.toList = file.toList ++ '\x00' :: between)
    (hcode : code.toList = between ++ '\x00' :: code'.toList) :
    Shifted (some file, code) (some file', code') := by
  obtain rfl : file' = file ++ "\x00" ++ String.ofList between := by
    apply String.toList_inj.1
    simpa using hfile
  obtain rfl : code = String.ofList between ++ "\x00" ++ code' := by
    apply String.toList_inj.1
    simpa using hcode
  exact .longer file _ code'

/-- What is put together of a heading and a code is told by both, but for a zero that moves. -/
theorem alike_of_heading_append_eq {file file' : Option String} {code code' : String}
    (h : heading file ++ code = heading file' ++ code') : Alike (file, code) (file', code') := by
  cases file with
  | none =>
    cases file' with
    | none => exact .inl (by simpa [heading] using h)
    | some file' =>
      obtain rfl : code = file' ++ "\x00" ++ code' := by simpa [heading] using h
      exact .inr (.inl (.named file' code'))
  | some file =>
    cases file' with
    | none =>
      obtain rfl : code' = file ++ "\x00" ++ code := by simpa [heading, eq_comm] using h
      exact .inr (.inr (.named file code))
    | some file' =>
      have hlists : file.toList ++ '\x00' :: code.toList =
          file'.toList ++ '\x00' :: code'.toList := by
        simpa [heading] using congrArg String.toList h
      rcases append_cons_eq_append_cons_iff.1 hlists with
        ⟨hfile, hcode⟩ | ⟨between, hfile, hcode⟩ | ⟨between, hfile, hcode⟩
      · rw [String.toList_inj.1 hfile, String.toList_inj.1 hcode]
        exact .inl rfl
      · exact .inr (.inl (.of_between hfile hcode))
      · exact .inr (.inr (.of_between hfile hcode))

namespace Shifted

theorem heading_append {first second : Option String × String} (h : Shifted first second) :
    heading first.1 ++ first.2 = heading second.1 ++ second.2 := by
  cases h <;> simp [heading, String.append_assoc]

/-- Only a code with a zero can be taken for another one. -/
theorem zero_mem_code {first second : Option String × String} (h : Shifted first second) :
    '\x00' ∈ first.2.toList := by
  cases h <;> simp

/-- Where both files are known, one of them has a zero. -/
theorem zero_mem_file {file file' code code' : String}
    (h : Shifted (some file, code) (some file', code')) : '\x00' ∈ file'.toList := by
  cases h
  simp

end Shifted

theorem heading_append_eq_iff {file file' : Option String} {code code' : String} :
    heading file ++ code = heading file' ++ code' ↔ Alike (file, code) (file', code') := by
  constructor
  · exact alike_of_heading_append_eq
  · rintro (heq | hshifted | hshifted)
    · rw [(Prod.mk.inj heq).1, (Prod.mk.inj heq).2]
    · exact hshifted.heading_append
    · exact hshifted.heading_append.symm

/-! ## The law of scans -/

/-- The payload of a scan tells its language, its file and its code, but for one thing: where a
code has a zero, what stands in front of the zero may pass for the file, or for the end of the
file, of another scan. Nothing passes so between codes without a zero, nor between files without
one. Other scans have the same fingerprint only where the digests of two payloads begin alike. -/
theorem a_payload_tells_a_scan_but_for_a_shifted_zero (language language' : Language)
    (file file' : Option String) (code code' : String) :
    (fingerprintPayload language file code = fingerprintPayload language' file' code' ↔
      language = language' ∧ Alike (file, code) (file', code')) ∧
      (Alike (file, code) (file', code') →
        '\x00' ∉ code.toList ∧ '\x00' ∉ code'.toList ∨
          (∃ name ∈ file, '\x00' ∉ name.toList) ∧ (∃ name ∈ file', '\x00' ∉ name.toList) →
        file = file' ∧ code = code') ∧
      (fingerprint language file code = fingerprint language' file' code' →
        language = language' ∧ Alike (file, code) (file', code') ∨
          fingerprintPayload language file code ≠ fingerprintPayload language' file' code' ∧
            (Digest.sha256Hex (fingerprintPayload language file code)).take 16 =
              (Digest.sha256Hex (fingerprintPayload language' file' code')).take 16) := by
  have hiff : fingerprintPayload language file code = fingerprintPayload language' file' code' ↔
      language = language' ∧ Alike (file, code) (file', code') := by
    rw [fingerprintPayload_eq_iff, heading_append_eq_iff]
  refine ⟨hiff, ?_, fun h => ?_⟩
  · rintro (heq | hshifted | hshifted) hzero
    · exact Prod.mk.inj heq
    · rcases hzero with ⟨hcode, -⟩ | ⟨⟨name, rfl, -⟩, name', rfl, hname'⟩
      · exact absurd hshifted.zero_mem_code hcode
      · exact absurd hshifted.zero_mem_file hname'
    · rcases hzero with ⟨-, hcode'⟩ | ⟨⟨name, rfl, hname⟩, name', rfl, -⟩
      · exact absurd hshifted.zero_mem_code hcode'
      · exact absurd hshifted.zero_mem_file hname
  · by_cases hpayload :
        fingerprintPayload language file code = fingerprintPayload language' file' code'
    · exact .inl (hiff.1 hpayload)
    · exact .inr ⟨hpayload, String.ofList_inj.1 h⟩

/-- A code that begins with a name and a zero, of no file, and the rest of it in a file of that
name have the same fingerprint. So have two files of which one goes on where the other ends. -/
theorem code_with_a_zero_passes_for_a_file_and_its_code :
    fingerprintPayload .python none "a\x00b" = fingerprintPayload .python (some "a") "b" ∧
      fingerprint .python none "a\x00b" = fingerprint .python (some "a") "b" ∧
      fingerprintPayload .python (some "a") "b\x00c" =
        fingerprintPayload .python (some "a\x00b") "c" := by
  have h : fingerprintPayload .python none "a\x00b" =
      fingerprintPayload .python (some "a") "b" := by decide
  exact ⟨h, by rw [fingerprint, fingerprint, h], by decide⟩

end Identity

end SourceAudit
