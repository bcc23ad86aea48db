import LinkLedger.LinkId
import LinkLedger.Text.Form

/-!
# Text that is written as itself

A text without `%` stands for its own bytes (`percentDecode_of_plain`), and one without `+` either
is a form value that reads as itself (`Form.decode_of_plain`). The decimal numerals are such texts,
so **the text of an id survives wherever it is put**, and it reads as the id (`LinkId.parse_text`),
as does every other text that writes it (`LinkId.parse_eq_ok_iff`).
-/

set_option autoImplicit false

namespace LinkLedger.Text

/-! ## Bytes -/

theorem toList_loop (bytes : ByteArray) (i : Nat) (seen : List UInt8) :
    ByteArray.toList.loop bytes i seen = seen.reverse ++ bytes.data.toList.drop i := by
  fun_induction ByteArray.toList.loop bytes i seen with
  | case1 i seen hi ih =>
    rw [ih]
    have hget : bytes.get! i = bytes.data.toList[i] := by
      simp [ByteArray.get!, hi]
    rw [List.reverse_cons, List.append_assoc, List.singleton_append, hget,
      ← List.drop_eq_getElem_cons]
  | case2 i seen hi =>
    rw [List.drop_eq_nil_of_le (by simpa using hi), List.append_nil]

/-- The bytes of a text are those of its characters in turn. -/
theorem toList_toByteArray (text : String) :
    text.toByteArray.toList = text.toList.flatMap String.utf8EncodeChar := by
  rw [ByteArray.toList, toList_loop, ← String.utf8Encode_toList]
  simp [List.utf8Encode]

/-! ## Parts of a text -/

theorem mem_intercalate {separator c : Char} {parts : List (List Char)}
    (h : c ∈ [separator].intercalate parts) : c = separator ∨ ∃ part ∈ parts, c ∈ part := by
  induction parts with
  | nil => simp at h
  | cons first more ih =>
    cases more with
    | nil => exact .inr ⟨first, List.mem_cons_self, by simpa using h⟩
    | cons second more =>
      rw [List.intercalate_cons_cons, List.mem_append, List.mem_append] at h
      rcases h with (hfirst | hseparator) | hmore
      · exact .inr ⟨first, List.mem_cons_self, hfirst⟩
      · exact .inl (List.mem_singleton.mp hseparator)
      · refine (ih hmore).imp_right ?_
        rintro ⟨part, hpart, hc⟩
        exact ⟨part, List.mem_cons_of_mem first hpart, hc⟩

/-! ## Text without escapes -/

/-- Without `%` a text stands for its own bytes. -/
theorem percentDecode_of_plain {text : List Char} (h : '%' ∉ text) :
    percentDecode text = text.flatMap String.utf8EncodeChar := by
  fun_induction percentDecode text with
  | case1 => rfl
  | case2 => simp at h
  | case3 => simp at h
  | case4 c rest _ ih =>
    rw [ih (fun hmem => h (List.mem_cons_of_mem c hmem)), List.flatMap_cons]

theorem toByteArray_percentDecode_of_plain {text : List Char} (h : '%' ∉ text) :
    (percentDecode text).toByteArray = (String.ofList text).toByteArray := by
  rw [percentDecode_of_plain h, String.toByteArray_ofList]
  rfl

theorem Form.decode_of_plain {text : List Char} (hpercent : '%' ∉ text) (hplus : '+' ∉ text) :
    Form.decode text = String.ofList text := by
  have hsame : text.map (fun c => if c = '+' then ' ' else c) = text := by
    refine (List.map_congr_left fun c hc => ?_).trans (List.map_id text)
    have hc' : c ≠ '+' := by
      rintro rfl
      exact hplus hc
    rw [if_neg hc']
    rfl
  rw [Form.decode, hsame, toByteArray_percentDecode_of_plain hpercent, lossy_toByteArray]

end LinkLedger.Text

namespace LinkLedger

open LinkLedger.Text

/-! ## Ids -/

namespace LinkId

theorem toList_text (id : LinkId) : id.text.toList = decimal id.word.toNat := by
  simp [text, decimalText]

theorem not_mem_text (id : LinkId) {c : Char} (h : isDecimal c = false) : c ∉ id.text.toList := by
  rw [toList_text]
  intro hmem
  rw [List.all_eq_true.mp (all_isDecimal_decimal _) c hmem] at h
  cases h

/-- A text writes an id: it is made of digits, and the number that they write is the id's. -/
structure IsWrittenBy (id : LinkId) (text : String) : Prop where
  ne_empty : text ≠ ""
  digits : ∀ c ∈ text.toList, isDecimal c = true
  number : decimalNumber text.toList = id.word.toNat

theorem parse_eq_ok_iff {text : String} {id : LinkId} :
    parse text = .ok id ↔ id.IsWrittenBy text := by
  constructor
  · intro read
    simp only [parse] at read
    split at read
    · cases read
    next digits =>
    split at read
    · next fits =>
      cases read
      simp only [Bool.or_eq_true, not_or, List.isEmpty_iff, Bool.not_eq_true', Bool.not_eq_false,
        List.all_eq_true] at digits
      refine ⟨?_, digits.2, ?_⟩
      · rintro rfl
        exact digits.1 rfl
      · rw [UInt64.toNat_ofNat']
        exact (Nat.mod_eq_of_lt fits).symm
    · cases read
  · rintro ⟨hne, digits, number⟩
    have hdigits : (text.toList.isEmpty || !text.toList.all isDecimal) = false := by
      rw [List.all_eq_true.mpr digits]
      simpa using hne
    have fits : id.word.toNat < idCount := id.word.toNat_lt
    simp only [parse, hdigits, number]
    rw [if_neg Bool.false_ne_true, if_pos fits, UInt64.ofNat_toNat]

theorem isWrittenBy_text (id : LinkId) : id.IsWrittenBy id.text where
  ne_empty := by simp [text, decimalText, decimal_ne_nil]
  digits := by simpa [toList_text] using all_isDecimal_decimal id.word.toNat
  number := by rw [toList_text, decimalNumber_decimal]

theorem parse_text (id : LinkId) : parse id.text = .ok id :=
  parse_eq_ok_iff.mpr id.isWrittenBy_text

end LinkId

end LinkLedger
