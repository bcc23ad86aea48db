import LinkLedger.Proofs.Text.Plain

/-!
# What is escaped reads back

A form value is written byte by byte: plain bytes as themselves, a space as `+`, and every other byte
as `%` and two digits. Read again, each of the three is the byte that it was written for
(`percentDecode_encodeByte`), so **a text that is put into a form value comes out of it unchanged**
(`Form.decode_encode`), whatever it is made of. Nothing that is written is the character that keeps
fields apart (`Form.not_mem_encode`), so the value stays in one piece.
-/

set_option autoImplicit false

namespace LinkLedger.Text

/-! ## Escapes -/

theorem hexDigit?_hexDigitUpper {n : Nat} (h : n < 16) : hexDigit? (hexDigitUpper n) = some n := by
  have all : ∀ k ∈ List.range 16, hexDigit? (hexDigitUpper k) = some k := by decide
  exact all n (List.mem_range.2 h)

/-- A percent sign and two digits are read as the byte that they were written for. -/
theorem percentDecode_percentByte (b : UInt8) (rest : List Char) :
    percentDecode (percentByte b ++ rest) = b :: percentDecode rest := by
  have high : b.toNat / 16 < 16 := by
    have := b.toNat_lt
    omega
  have low : b.toNat % 16 < 16 := Nat.mod_lt _ (by decide)
  have whole : 16 * (b.toNat / 16) + b.toNat % 16 = b.toNat := Nat.div_add_mod _ _
  simp only [percentByte, List.cons_append, List.nil_append, percentDecode,
    hexDigit?_hexDigitUpper high, hexDigit?_hexDigitUpper low, whole, UInt8.ofNat_toNat]

theorem percentDecode_cons_of_ne {c : Char} (h : c ≠ '%') (rest : List Char) :
    percentDecode (c :: rest) = String.utf8EncodeChar c ++ percentDecode rest := by
  rw [percentDecode]
  intro a b more percent
  exact absurd percent h

namespace Form

/-! ## Single bytes -/

/-- What a character of a form value stands for before escapes are read. -/
def spaceOfPlus (c : Char) : Char := if c = '+' then ' ' else c

/-- A property of bytes that holds of each of them holds of all. -/
theorem forall_byte {P : UInt8 → Prop} (h : ∀ n ∈ List.range 256, P (UInt8.ofNat n)) (b : UInt8) :
    P b := by
  have := h b.toNat (List.mem_range.mpr b.toNat_lt)
  rwa [UInt8.ofNat_toNat] at this

theorem of_isPlainByte {b : UInt8} (h : isPlainByte b = true) :
    Char.ofNat b.toNat ≠ '%' ∧ Char.ofNat b.toNat ≠ '+' ∧
      String.utf8EncodeChar (Char.ofNat b.toNat) = [b] := by
  revert h
  exact forall_byte (P := fun b => isPlainByte b = true → Char.ofNat b.toNat ≠ '%' ∧
    Char.ofNat b.toNat ≠ '+' ∧ String.utf8EncodeChar (Char.ofNat b.toNat) = [b])
    (by decide +kernel) b

theorem map_spaceOfPlus_percentByte (b : UInt8) :
    (percentByte b).map spaceOfPlus = percentByte b :=
  forall_byte (P := fun b => (percentByte b).map spaceOfPlus = percentByte b) (by decide +kernel) b

/-- **A byte reads as itself**, however it was written. -/
theorem percentDecode_encodeByte (b : UInt8) (rest : List Char) :
    percentDecode ((encodeByte b).map spaceOfPlus ++ rest) = b :: percentDecode rest := by
  unfold encodeByte
  by_cases plain : isPlainByte b = true
  · obtain ⟨percent, plus, bytes⟩ := of_isPlainByte plain
    rw [if_pos plain, List.map_singleton, spaceOfPlus, if_neg plus, List.singleton_append,
      percentDecode_cons_of_ne percent, bytes]
    rfl
  · rw [if_neg plain]
    by_cases space : b = 0x20
    · rw [if_pos space, space]
      exact percentDecode_cons_of_ne (by decide) rest
    · rw [if_neg space, map_spaceOfPlus_percentByte, percentDecode_percentByte]

theorem not_mem_encodeByte (b : UInt8) : '&' ∉ encodeByte b :=
  forall_byte (P := fun b => '&' ∉ encodeByte b) (by decide +kernel) b

/-! ## Whole texts -/

theorem percentDecode_flatMap_encodeByte (bytes : List UInt8) :
    percentDecode ((bytes.flatMap encodeByte).map spaceOfPlus) = bytes := by
  induction bytes with
  | nil => rfl
  | cons b more ih => rw [List.flatMap_cons, List.map_append, percentDecode_encodeByte, ih]

/-- **A text that is put into a form value comes out of it unchanged.** -/
theorem decode_encode (text : String) : decode (encode text) = text := by
  have bytes : percentDecode ((encode text).map spaceOfPlus) =
      text.toList.flatMap String.utf8EncodeChar := by
    rw [← toList_toByteArray]
    exact percentDecode_flatMap_encodeByte text.toByteArray.toList
  have whole : (text.toList.flatMap String.utf8EncodeChar).toByteArray = text.toByteArray := by
    conv => rhs; rw [← text.ofList_toList, String.toByteArray_ofList]
    rfl
  show lossy (percentDecode ((encode text).map spaceOfPlus)).toByteArray = text
  rw [bytes, whole, lossy_toByteArray]

/-- A value that is written has nothing in it that ends a field. -/
theorem not_mem_encode (text : String) : '&' ∉ encode text := by
  intro hmem
  obtain ⟨b, -, hb⟩ := List.mem_flatMap.mp hmem
  exact not_mem_encodeByte b hb

end Form

end LinkLedger.Text
