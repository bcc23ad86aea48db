/-!
# Decimal numerals

Reading and writing natural numbers in base ten. Only the ASCII digits are digits here. Main
statements: what `decimal` writes reads back as the same number, is never empty, and consists of
digits.
-/

set_option autoImplicit false

namespace LinkLedger.Text

/-- Whether a character is one of the ten ASCII digits. -/
def isDecimal (c : Char) : Bool := '0' ≤ c && c ≤ '9'

def decimalValue (c : Char) : Nat := c.toNat - '0'.toNat

/-- The number that a run of digits writes, most significant first. -/
def decimalNumber (digits : List Char) : Nat :=
  digits.foldl (fun n c => n * 10 + decimalValue c) 0

/-- The digit of a value below ten. -/
def decimalDigit (n : Nat) : Char := Char.ofNat ('0'.toNat + n)

/-- A number in base ten without leading zeros. -/
def decimal (n : Nat) : List Char :=
  if n < 10 then [decimalDigit n] else decimal (n / 10) ++ [decimalDigit (n % 10)]
termination_by n
decreasing_by omega

def decimalText (n : Nat) : String := String.ofList (decimal n)

/-! ## What is written reads back -/

theorem decimalValue_decimalDigit {n : Nat} (h : n < 10) : decimalValue (decimalDigit n) = n := by
  have all : ∀ k ∈ List.range 10, decimalValue (decimalDigit k) = k := by decide
  exact all n (List.mem_range.2 h)

theorem isDecimal_decimalDigit {n : Nat} (h : n < 10) : isDecimal (decimalDigit n) = true := by
  have all : ∀ k ∈ List.range 10, isDecimal (decimalDigit k) = true := by decide
  exact all n (List.mem_range.2 h)

/-- A last digit counts once, all before it ten times. -/
theorem decimalNumber_append_singleton (digits : List Char) (c : Char) :
    decimalNumber (digits ++ [c]) = decimalNumber digits * 10 + decimalValue c := by
  simp [decimalNumber]

/-- A written number reads back as itself. -/
theorem decimalNumber_decimal (n : Nat) : decimalNumber (decimal n) = n := by
  fun_induction decimal n with
  | case1 n h => simp [decimalNumber, decimalValue_decimalDigit h]
  | case2 n h ih =>
    rw [decimalNumber_append_singleton, ih, decimalValue_decimalDigit (by omega)]
    omega

/-- Numbers are written in digits only. -/
theorem all_isDecimal_decimal (n : Nat) : (decimal n).all isDecimal = true := by
  fun_induction decimal n with
  | case1 n h => simp [isDecimal_decimalDigit h]
  | case2 n h ih => simp_all [isDecimal_decimalDigit (show n % 10 < 10 by omega)]

/-- No number is written as nothing. -/
theorem decimal_ne_nil (n : Nat) : decimal n ≠ [] := by
  unfold decimal
  split <;> simp

end LinkLedger.Text
