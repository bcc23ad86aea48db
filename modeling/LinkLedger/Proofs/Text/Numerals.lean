import Mathlib.Data.List.DropRight
import Mathlib.Data.List.Induction
import Mathlib.Data.Nat.Digits.Defs
import LinkLedger.Proofs.Text.Plain

/-!
# Numerals

A run of digits writes a number by the places of its digits (`decimalNumber_eq_ofDigits`), and zeros
in front of it are all that two runs for one number can differ in: written again, the number is the
run without them (`decimal_decimalNumber`).

An id is read from a run of any length, so **the text of an id is read exactly and nothing is lost**
(`LinkId.texts_are_read_exactly`): what is no run of digits is refused, what needs more than 64 bits
is refused, and every other text is read as the number that it writes.
-/

set_option autoImplicit false

namespace LinkLedger.Text

/-! ## Digits -/

theorem isDecimal_iff {c : Char} : isDecimal c = true ↔ '0' ≤ c ∧ c ≤ '9' := by
  simp [isDecimal]

/-- A digit is the one that its value is written with. -/
theorem decimalDigit_decimalValue {c : Char} (digit : isDecimal c = true) :
    decimalValue c < 10 ∧ decimalDigit (decimalValue c) = c := by
  obtain ⟨low, high⟩ := isDecimal_iff.mp digit
  have low : '0'.toNat ≤ c.toNat := UInt32.le_iff_toNat_le.mp low
  have high : c.toNat ≤ '9'.toNat := UInt32.le_iff_toNat_le.mp high
  have ends : '9'.toNat = '0'.toNat + 9 := by decide
  refine ⟨by unfold decimalValue; omega, ?_⟩
  rw [decimalDigit, decimalValue, Nat.add_sub_cancel' low, Char.ofNat_toNat]

/-! ## Runs of digits -/

/-- A run of digits writes a number in base ten, most significant digit first. -/
theorem decimalNumber_eq_ofDigits (digits : List Char) :
    decimalNumber digits = Nat.ofDigits 10 (digits.reverse.map decimalValue) := by
  induction digits using List.reverseRecOn with
  | nil => rfl
  | append_singleton front c ih =>
    rw [decimalNumber_append_singleton, ih, List.reverse_concat, List.map_cons, Nat.ofDigits_cons,
      Nat.add_comm, Nat.mul_comm]

/-- Digits without the zeros in front of them. -/
def significant (digits : List Char) : List Char := digits.dropWhile (· = '0')

/-- Digits without the zeros in front of them, unless there is nothing else. -/
def withoutZeros (digits : List Char) : List Char :=
  if significant digits = [] then ['0'] else significant digits

theorem decimalNumber_significant (digits : List Char) :
    decimalNumber (significant digits) = decimalNumber digits := by
  induction digits with
  | nil => rfl
  | cons c digits ih =>
    by_cases zero : c = '0'
    · subst zero
      rw [significant, List.dropWhile_cons_of_pos (by simp)]
      exact ih
    · rw [significant, List.dropWhile_cons_of_neg (by simpa using zero)]

/-- Digits that no zero leads are what their number is written as. By induction from the last digit
    on: the number before it is not zero, since it is written with the digits before it. -/
theorem decimal_of_significant {digits : List Char} (all : ∀ c ∈ digits, isDecimal c = true)
    {first : Char} (leads : digits.head? = some first) (nonzero : first ≠ '0') :
    decimal (decimalNumber digits) = digits := by
  induction digits using List.reverseRecOn with
  | nil => cases leads
  | append_singleton front c ih =>
    obtain ⟨small, digit⟩ := decimalDigit_decimalValue (all c (by simp))
    rw [decimalNumber_append_singleton]
    cases front with
    | nil =>
      rw [show decimalNumber [] * 10 + decimalValue c = decimalValue c from Nat.zero_add _, decimal,
        if_pos small, digit]
      rfl
    | cons d front =>
      have before := ih (fun c hc => all c (List.mem_append_left _ hc)) (by simpa using leads)
      have positive : 0 < decimalNumber (d :: front) := by
        refine Nat.pos_of_ne_zero fun zero => nonzero ?_
        rw [zero, decimal, if_pos (by decide)] at before
        have same : d = '0' := (List.cons.inj before).1.symm
        rw [← same]
        exact (Option.some.inj leads).symm
      rw [decimal, if_neg (by omega),
        show (decimalNumber (d :: front) * 10 + decimalValue c) / 10 = decimalNumber (d :: front) by
          omega,
        show (decimalNumber (d :: front) * 10 + decimalValue c) % 10 = decimalValue c by omega,
        before, digit]

@[simp] theorem significant_withoutZeros (digits : List Char) :
    significant (withoutZeros digits) = significant digits := by
  unfold withoutZeros
  split
  next none => exact none.symm
  next => exact List.dropWhile_idempotent _ _

theorem eq_zero_or_mem_significant {digits : List Char} {c : Char} (hc : c ∈ digits) :
    c = '0' ∨ c ∈ significant digits := by
  rw [← List.takeWhile_append_dropWhile (p := (· = '0')) (l := digits), List.mem_append] at hc
  exact hc.imp_left fun zero => by simpa using List.mem_takeWhile_imp zero

/-- **Written again, a number is written without the zeros in front.** -/
theorem decimal_decimalNumber {digits : List Char} (all : ∀ c ∈ digits, isDecimal c = true) :
    decimal (decimalNumber digits) = withoutZeros digits := by
  have suffix : significant digits <:+ digits := List.dropWhile_suffix _
  rw [← decimalNumber_significant digits, withoutZeros]
  cases rest : significant digits with
  | nil => exact decimal.eq_1 0
  | cons c more =>
    have nonzero : c ≠ '0' := by
      have := List.head?_dropWhile_not (· = '0') digits
      rw [show digits.dropWhile (· = '0') = c :: more from rest] at this
      simpa using this
    rw [if_neg (List.cons_ne_nil c more)]
    exact decimal_of_significant (fun d hd => all d (suffix.subset (rest ▸ hd))) rfl nonzero

end LinkLedger.Text

namespace LinkLedger.LinkId

open LinkLedger.Text

/-! ## Ids -/

/-- The number that a text writes by the places of its digits. -/
def placeValue (text : String) : Nat := Nat.ofDigits 10 (text.toList.reverse.map decimalValue)

theorem isWrittenBy_iff {id : LinkId} {text : String} :
    id.IsWrittenBy text ↔
      text ≠ "" ∧ (∀ c ∈ text.toList, '0' ≤ c ∧ c ≤ '9') ∧ placeValue text = id.word.toNat := by
  simp only [placeValue, ← decimalNumber_eq_ofDigits, ← isDecimal_iff]
  exact ⟨fun h => ⟨h.ne_empty, h.digits, h.number⟩, fun ⟨h, h', h''⟩ => ⟨h, h', h''⟩⟩

/-- An id is written as any text for it is, but for zeros in front. -/
theorem IsWrittenBy.toList_text {id : LinkId} {text : String} (h : id.IsWrittenBy text) :
    id.text.toList = withoutZeros text.toList := by
  rw [LinkId.toList_text, ← h.number, decimal_decimalNumber h.digits]

/-- Beside a text for an id, the others are those that differ from it in zeros in front only. -/
theorem IsWrittenBy.other_iff {id : LinkId} {text other : String} (h : id.IsWrittenBy text) :
    id.IsWrittenBy other ↔ other ≠ "" ∧ significant other.toList = significant text.toList := by
  constructor
  · intro h'
    have same : withoutZeros other.toList = withoutZeros text.toList := by
      rw [← h.toList_text, h'.toList_text]
    exact ⟨h'.ne_empty, by rw [← significant_withoutZeros, same, significant_withoutZeros]⟩
  · rintro ⟨hne, same⟩
    refine ⟨hne, fun c hc => ?_, ?_⟩
    · rcases eq_zero_or_mem_significant hc with rfl | hc
      · decide
      · rw [same] at hc
        exact h.digits c ((List.dropWhile_suffix _).subset hc)
    · rw [← decimalNumber_significant, same, decimalNumber_significant, h.number]

/-- **The text of an id is read exactly and nothing is lost.** A text is read as an id exactly if it
    is not empty, has none but the ten digits in it and writes a number below `2 ^ 64`, however many
    zeros lead it; the id is that number then. The text of an id is read as the id. An id that was
    read from a text is written as the text without the zeros in front, so another text is read as
    the same id exactly if it is the same without the zeros in front of either. -/
theorem texts_are_read_exactly (text : String) :
    ((∃ id, parse text = .ok id) ↔
      text ≠ "" ∧ (∀ c ∈ text.toList, '0' ≤ c ∧ c ≤ '9') ∧ placeValue text < 2 ^ 64) ∧
    (∀ id, parse id.text = .ok id) ∧
    ∀ id, parse text = .ok id →
      id.word.toNat = placeValue text ∧
      id.text = String.ofList (withoutZeros text.toList) ∧
      ∀ other, parse other = .ok id ↔
        other ≠ "" ∧ significant other.toList = significant text.toList := by
  simp only [parse_eq_ok_iff]
  refine ⟨⟨?_, ?_⟩, isWrittenBy_text, fun id h => ⟨?_, ?_, fun other => h.other_iff⟩⟩
  · rintro ⟨id, h⟩
    obtain ⟨hne, digits, number⟩ := isWrittenBy_iff.mp h
    exact ⟨hne, digits, number ▸ id.word.toNat_lt⟩
  · rintro ⟨hne, digits, fits⟩
    exact ⟨⟨UInt64.ofNat (placeValue text)⟩,
      isWrittenBy_iff.mpr ⟨hne, digits, (UInt64.toNat_ofNat_of_lt fits).symm⟩⟩
  · exact (isWrittenBy_iff.mp h).2.2.symm
  · rw [← h.toList_text, String.ofList_toList]

/-- The last id is read behind zeros and is written without them; the next number is no id, nor is a
    digit of another script or a digit with a sign. -/
theorem texts_are_read_exactly_up_to_the_last :
    let last : LinkId := ⟨18446744073709551615⟩
    parse "0018446744073709551615" = .ok last ∧ last.text = "18446744073709551615" ∧
      parse "00018446744073709551615" = .ok last ∧
      ∀ text ∈ ["18446744073709551616", "٣", "+7", ""], ¬∃ id, parse text = .ok id := by
  intro last
  have read : parse "0018446744073709551615" = .ok last := by rfl
  obtain ⟨-, written, others⟩ :=
    (texts_are_read_exactly "0018446744073709551615").2.2 last read
  have none (text : String)
      (h : ¬(text ≠ "" ∧ (∀ c ∈ text.toList, '0' ≤ c ∧ c ≤ '9') ∧ placeValue text < 2 ^ 64)) :
      ¬∃ id, parse text = .ok id := fun read => h ((texts_are_read_exactly text).1.mp read)
  refine ⟨read, by rw [written]; decide, (others _).mpr (by decide), ?_⟩
  simp only [List.forall_mem_cons]
  refine ⟨none _ ?_, none _ ?_, none _ ?_, none _ ?_, by simp⟩
  · rintro ⟨-, -, fits⟩
    exact absurd fits (by decide)
  · rintro ⟨-, digits, -⟩
    exact absurd (digits '٣' (by decide)) (by decide)
  · rintro ⟨-, digits, -⟩
    exact absurd (digits '+' (by decide)) (by decide)
  · rintro ⟨hne, -⟩
    exact hne rfl

end LinkLedger.LinkId
