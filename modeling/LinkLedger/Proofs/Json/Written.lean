import LinkLedger.Proofs.Json.Spelling

/-!
# What is written as JSON tells what was written

A written string is one of the spellings that read back as the text it was written for, with what
follows it left over. So a string cannot end early, and no two texts are written alike.

**`writeObject_inj`: objects that are written alike have the same members.**
-/

set_option autoImplicit false

namespace LinkLedger.Json

open LinkLedger.Text

/-! ## Strings -/

/-- A written string ends where it ends. -/
theorem writeString_append_inj {u v : String} {x y : List Char}
    (h : writeString u ++ x = writeString v ++ y) : u = v ∧ x = y := by
  obtain ⟨behind, begins, read⟩ :=
    readString_spelled (spellsString_writeString u) (x.map Piece.char)
  obtain ⟨behind', begins', read'⟩ :=
    readString_spelled (spellsString_writeString v) (y.map Piece.char)
  rw [← List.map_append] at begins begins'
  rw [h, begins', List.cons.injEq] at begins
  obtain ⟨rfl, same⟩ := Prod.mk.inj (Except.ok.inj (read.symm.trans (begins.2 ▸ read')))
  exact ⟨rfl, (List.map_inj_right fun _ _ => Piece.char.inj).mp same⟩

/-! ## Values and objects -/

/-- A number ends where its digits end. -/
theorem decimal_append_inj {m n : Nat} {x y : List Char} (hx : x.head?.any isDecimal = false)
    (hy : y.head?.any isDecimal = false) (h : decimal m ++ x = decimal n ++ y) : m = n ∧ x = y := by
  have digits : ∀ (k : Nat) {z : List Char}, z.head?.any isDecimal = false →
      (decimal k ++ z).takeWhile isDecimal = decimal k := by
    intro k z hz
    rw [List.takeWhile_append_of_pos (List.all_eq_true.mp (all_isDecimal_decimal k))]
    cases z with
    | nil => simp
    | cons c z => simp_all
  have same : decimal m = decimal n := by
    rw [← digits m hx, h, digits n hy]
  rw [same] at h
  refine ⟨?_, List.append_cancel_left h⟩
  rw [← decimalNumber_decimal m, same, decimalNumber_decimal]

/-- A written value ends where it ends, in front of anything but a digit. -/
theorem Value.write_append_inj {v w : Value} {x y : List Char}
    (hx : x.head?.any isDecimal = false) (hy : y.head?.any isDecimal = false)
    (h : v.write ++ x = w.write ++ y) : v = w ∧ x = y := by
  -- A number begins with a digit and a string with a quote.
  have apart : ∀ (n : Nat) (text : String) (a b : List Char),
      decimal n ++ a ≠ writeString text ++ b := by
    intro n text a b hab
    obtain ⟨e, digits, hdecimal, hdigit⟩ := (isWhole_decimal n).begins
    rw [hdecimal, writeString, List.cons_append, List.append_assoc, List.cons_append] at hab
    rw [(List.cons.inj hab).1] at hdigit
    exact absurd hdigit (by decide)
  cases v with
  | number m =>
    cases w with
    | number n =>
      obtain ⟨rfl, rest⟩ := decimal_append_inj hx hy h
      exact ⟨rfl, rest⟩
    | string text => exact absurd h (apart m text _ _)
  | string text =>
    cases w with
    | number n => exact absurd h.symm (apart n text _ _)
    | string text' =>
      obtain ⟨rfl, rest⟩ := writeString_append_inj h
      exact ⟨rfl, rest⟩

/-- What follows a member: a comma and more members, or the closing brace. -/
def membersEnd : List (String × Value) → List Char
  | [] => ['\x7d']
  | more => ',' :: (writeMembers more ++ ['\x7d'])

theorem membersEnd_head (more : List (String × Value)) :
    (membersEnd more).head?.any isDecimal = false := by
  cases more <;> rfl

theorem writeMembers_cons (key : String) (value : Value) (more : List (String × Value)) :
    writeMembers ((key, value) :: more) ++ ['\x7d'] =
      writeString key ++ ':' :: (value.write ++ membersEnd more) := by
  cases more with
  | nil => simp [writeMembers, membersEnd]
  | cons member more => simp [writeMembers, membersEnd]

theorem writeMembers_inj {ms ms' : List (String × Value)}
    (h : writeMembers ms ++ ['\x7d'] = writeMembers ms' ++ ['\x7d']) : ms = ms' := by
  induction ms generalizing ms' with
  | nil =>
    cases ms' with
    | nil => rfl
    | cons member more =>
      rw [writeMembers_cons] at h
      simp [writeMembers, writeString] at h
  | cons member more ih =>
    obtain ⟨key, value⟩ := member
    rw [writeMembers_cons] at h
    cases ms' with
    | nil => simp [writeMembers, writeString] at h
    | cons member' more' =>
      rw [writeMembers_cons] at h
      obtain ⟨rfl, hvalue⟩ := writeString_append_inj h
      obtain ⟨rfl, hend⟩ := Value.write_append_inj (membersEnd_head more) (membersEnd_head more')
        (List.cons.inj hvalue).2
      congr 1
      cases more <;> cases more'
      · rfl
      · cases (List.cons.inj hend).1
      · cases (List.cons.inj hend).1
      · exact ih (List.cons.inj hend).2

/-- **Objects that are written alike have the same members.** -/
theorem writeObject_inj {ms ms' : List (String × Value)} (h : writeObject ms = writeObject ms') :
    ms = ms' := by
  have chars := String.ofList_inj.mp h
  rw [List.cons_append, List.cons_append, List.cons.injEq] at chars
  exact writeMembers_inj chars.2

end LinkLedger.Json
