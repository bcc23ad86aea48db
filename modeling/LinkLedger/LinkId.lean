import LinkLedger.Text.Decimal

/-!
# Ids of permanent links

Links are numbered in the order in which they are made. An id is written in base ten, and read from
any run of digits that writes a number of 64 bits, leading zeros included; signs, blanks and digits
of other scripts are refused.
-/

set_option autoImplicit false

namespace LinkLedger

open LinkLedger.Text

/-- The id of a permanent link: a word of 64 bits. -/
structure LinkId where
  word : UInt64
  deriving DecidableEq, Repr, Inhabited

inductive IdFault where
  /-- It is empty or holds something other than digits. -/
  | malformed (text : String)
  /-- The number needs more than 64 bits. -/
  | tooLarge (text : String)
  deriving DecidableEq, Repr

/-- The fault in words. -/
def IdFault.message : IdFault → String
  | .malformed text => s!"invalid permalink id: {text}"
  | .tooLarge text => s!"invalid permalink id: {text}: number too large to fit in target type"

def idCount : Nat := 18446744073709551616

def LinkId.parse (text : String) : Except IdFault LinkId :=
  let digits := text.toList
  if digits.isEmpty || !digits.all isDecimal then .error (.malformed text)
  else if decimalNumber digits < idCount then .ok ⟨UInt64.ofNat (decimalNumber digits)⟩
  else .error (.tooLarge text)

/-- An id in base ten. -/
def LinkId.text (id : LinkId) : String := decimalText id.word.toNat

instance : ToString LinkId := ⟨LinkId.text⟩

end LinkLedger
