import Mathlib.Tactic.SplitIfs
import LinkLedger.Log.Format
import LinkLedger.Proofs.Address.Absolute
import LinkLedger.Refusal

/-!
# Text without controls

A control in a text can end a line or begin another, so what is printed should have none. Numbers
have none, and **quoted text has none, whatever is quoted** (`noControl_quoted`). A url that is
refused is told about in one of four ways: not at all, quoted, by its scheme, or as it is; the last
only if it is known by then that it has no control. So **no refused url puts a control into the
reason** (`noControl_of_refused`), and a line of the log has one only if the event has one
(`noControl_line`).
-/

set_option autoImplicit false

namespace LinkLedger

open LinkLedger.Text LinkLedger.Unicode

def NoControl (text : List Char) : Prop := ∀ c ∈ text, isControl c = false

instance : DecidablePred NoControl := List.decidableBAll fun c => isControl c = false

@[simp] theorem noControl_nil : NoControl [] := nofun

@[simp] theorem noControl_cons {c : Char} {text : List Char} :
    NoControl (c :: text) ↔ isControl c = false ∧ NoControl text := List.forall_mem_cons

@[simp] theorem noControl_append {text more : List Char} :
    NoControl (text ++ more) ↔ NoControl text ∧ NoControl more := List.forall_mem_append

theorem noControl_text_append {text more : String} :
    NoControl (text ++ more).toList ↔ NoControl text.toList ∧ NoControl more.toList := by
  rw [String.toList_append, noControl_append]

theorem noControl_flatMap {α : Type} {parts : List α} {f : α → List Char}
    (h : ∀ part ∈ parts, NoControl (f part)) : NoControl (parts.flatMap f) := by
  intro c hc
  obtain ⟨part, hpart, hmem⟩ := List.mem_flatMap.mp hc
  exact h part hpart c hmem

theorem noControl_of_any {text : List Char} (h : ¬ text.any isControl = true) : NoControl text := by
  simpa [NoControl] using h

/-! ## Numbers -/

/-- Printable ASCII holds no control. -/
theorem isControl_of_printable {c : Char} (low : 0x20 ≤ c.toNat) (high : c.toNat < 0x7F) :
    isControl c = false := by
  simp only [isControl, Bool.or_eq_false_iff, Bool.and_eq_false_iff, decide_eq_false_iff_not]
  omega

theorem noControl_decimal (n : Nat) : NoControl (decimal n) := by
  intro c hc
  have digit : isDecimal c = true := List.all_eq_true.mp (all_isDecimal_decimal n) c hc
  simp only [isDecimal, Bool.and_eq_true, decide_eq_true_eq, Char.le_def, UInt32.le_iff_toNat_le] at digit
  obtain ⟨low, high⟩ := digit
  exact isControl_of_printable (Nat.le_trans (by decide) low) (Nat.lt_of_le_of_lt high (by decide))

theorem noControl_repr (n : Nat) : NoControl (toString n).toList := by
  intro c hc
  have digit : c.isDigit = true := by
    refine Nat.isDigit_of_mem_toDigits (by decide) (Nat.le_refl 10) (n := n) ?_
    rwa [← Nat.toList_repr]
  simp only [Char.isDigit, Bool.and_eq_true, decide_eq_true_eq, UInt32.le_iff_toNat_le] at digit
  obtain ⟨low, high⟩ := digit
  exact isControl_of_printable (Nat.le_trans (by decide) low) (Nat.lt_of_le_of_lt high (by decide))

theorem isControl_hexDigitOf {n : Nat} (h : n < 16) : isControl (hexDigitOf n) = false := by
  have all : ∀ k ∈ List.range 16, isControl (hexDigitOf k) = false := by decide
  exact all n (List.mem_range.mpr h)

theorem noControl_lowerHex (n : Nat) : NoControl (lowerHex n) := by
  fun_induction lowerHex n with
  | case1 n small => simp [isControl_hexDigitOf small]
  | case2 n _ ih => simp [ih, isControl_hexDigitOf (Nat.mod_lt n (by decide))]

/-! ## Quoted text -/

theorem noControl_quotedChar (c : Char) : NoControl (quotedChar c) := by
  unfold quotedChar
  split_ifs with _ _ _ _ _ _ hidden
  iterate 6 decide
  · have number := noControl_lowerHex c.toNat
    have marks : NoControl ['\\', 'u', '{'] ∧ NoControl ['}'] := by decide
    simp only [numberEscape, noControl_append]
    exact ⟨⟨marks.1, number⟩, marks.2⟩
  · simp only [Bool.or_eq_true, not_or] at hidden
    simpa using hidden.1

/-- **Quoted text has no control**, whatever is quoted. -/
theorem noControl_quoted (text : String) : NoControl (quoted text).toList := by
  have inside : NoControl (text.toList.flatMap quotedChar) :=
    noControl_flatMap fun c _ => noControl_quotedChar c
  have mark : isControl '"' = false := by decide
  simp [quoted, inside, mark]

/-! ## Refused urls -/

theorem Address.Fault.noControl (fault : Address.Fault) : NoControl fault.message.toList := by
  cases fault <;> decide

theorem toNat_of_isSchemeChar {c : Char} (h : Address.isSchemeChar c = true) : c.toNat < 128 := by
  -- Each class of letters and digits is a range that ends within ASCII.
  have below {highest : Char} (range : c.val ≤ highest.val) (small : highest.toNat < 128) :
      c.toNat < 128 := Nat.lt_of_le_of_lt (UInt32.le_iff_toNat_le.mp range) small
  simp only [Address.isSchemeChar, Char.isAlphanum, Bool.or_eq_true, beq_iff_eq] at h
  rcases h with (((letter | digit) | rfl) | rfl) | rfl
  · rcases Bool.or_eq_true_iff.mp letter with upper | lower
    · have range : c.val ≤ 'Z'.val := (of_decide_eq_true upper).2
      exact below range (by decide)
    · have range : c.val ≤ 'z'.val := of_decide_eq_true (Bool.and_eq_true_iff.mp lower).2
      exact below range (by decide)
  · have range : c.val ≤ '9'.val := of_decide_eq_true (Bool.and_eq_true_iff.mp digit).2
    exact below range (by decide)
  all_goals decide

theorem isControl_toLower {c : Char} (h : Address.isSchemeChar c = true) :
    isControl c.toLower = false := by
  have all : ∀ n < 128, Address.isSchemeChar (Char.ofNat n) = true →
      isControl (Char.ofNat n).toLower = false := by decide +kernel
  have found := all c.toNat (toNat_of_isSchemeChar h)
  rw [Char.ofNat_toNat] at found
  exact found h

/-- The scheme of an address was read from letters, digits and marks. -/
theorem noControl_scheme {text : String} {target : Address.Target}
    (h : Address.parse text = .ok target) : NoControl target.scheme.toList := by
  obtain ⟨rest, split⟩ := Address.scheme_of_parse h
  obtain ⟨read, isScheme, lower, -⟩ := Address.splitScheme?_eq_some.mp split
  rw [lower]
  intro c hc
  obtain ⟨letter, hletter, rfl⟩ := List.mem_map.mp hc
  have all : read.all Address.isSchemeChar = true := (Bool.and_eq_true_iff.mp isScheme).2
  exact isControl_toLower (List.all_eq_true.mp all letter hletter)

theorem noControl_tooLong (bytes : Nat) : NoControl (UrlFault.tooLong bytes).message.toList := by
  show NoControl ("URL is " ++ toString bytes ++ " bytes long, the limit is " ++
    toString maxUrlBytes).toList
  simp only [noControl_text_append]
  exact ⟨⟨⟨by decide, noControl_repr bytes⟩, by decide⟩, noControl_repr maxUrlBytes⟩

/-- **No refused url puts a control into the reason.** -/
theorem noControl_of_refused {url : String} {fault : UrlFault} (h : checkUrl url = .error fault) :
    NoControl fault.message.toList := by
  unfold checkUrl at h
  split_ifs at h with hempty hlong hblank hcontrol
  · obtain rfl := Except.error.inj h
    decide
  · obtain rfl := Except.error.inj h
    exact noControl_tooLong url.utf8ByteSize
  · obtain rfl := Except.error.inj h
    show NoControl ("URL has leading or trailing whitespace: " ++ quoted url).toList
    exact noControl_text_append.mpr ⟨by decide, noControl_quoted url⟩
  · obtain rfl := Except.error.inj h
    show NoControl ("URL contains control characters: " ++ quoted url).toList
    exact noControl_text_append.mpr ⟨by decide, noControl_quoted url⟩
  · -- from here on the url has no control
    have clean : NoControl url.toList := noControl_of_any hcontrol
    cases parsed : Address.parse url with
    | error cause =>
      rw [parsed] at h
      obtain rfl := Except.error.inj h
      show NoControl (cause.message ++ ": " ++ url).toList
      simp only [noControl_text_append]
      exact ⟨⟨cause.noControl, by decide⟩, clean⟩
    | ok target =>
      rw [parsed] at h
      dsimp only at h
      split_ifs at h with web
      obtain rfl := Except.error.inj h
      show NoControl ("URL scheme must be http or https: " ++ target.scheme).toList
      exact noControl_text_append.mpr ⟨by decide, noControl_scheme parsed⟩

/-! ## Lines of the log -/

theorem noControl_stringChar {c : Char} (h : isControl c = false) :
    NoControl (Json.stringChar c) := by
  unfold Json.stringChar
  split_ifs with _ _ _ _ _ _ _ low
  iterate 7 decide
  · simp [isControl, low] at h
  · simpa using h

theorem noControl_writeString {text : String} (h : NoControl text.toList) :
    NoControl (Json.writeString text) := by
  have inside : NoControl (text.toList.flatMap Json.stringChar) :=
    noControl_flatMap fun c hc => noControl_stringChar (h c hc)
  have mark : isControl '"' = false := by decide
  simp [Json.writeString, inside, mark]

theorem noControl_intercalate {parts : List (List Char)} (h : ∀ part ∈ parts, NoControl part) :
    NoControl ([','].intercalate parts) := by
  intro c hc
  rcases mem_intercalate hc with rfl | ⟨part, hpart, hmem⟩
  · decide
  · exact h part hpart c hmem

namespace Log

theorem noControl_object {members : List (List Char)} (h : ∀ m ∈ members, NoControl m) :
    NoControl (object members) := by
  have inside := noControl_intercalate h
  have marks : isControl '{' = false ∧ isControl '}' = false := by decide
  simp [object, inside, marks]

theorem noControl_member {name text : String} (hname : NoControl name.toList)
    (htext : NoControl text.toList) : NoControl (member name text) := by
  have mark : isControl ':' = false := by decide
  simp [member, noControl_writeString hname, noControl_writeString htext, mark]

end Log

/-- An event without controls, in its message and in its fields. -/
structure Event.Clear (e : Event) : Prop where
  message : NoControl e.message.toList
  fields : ∀ f ∈ e.fields, NoControl f.name.toList ∧ NoControl f.text.toList

theorem Event.noControl_target (e : Event) : NoControl e.target.toList := by
  unfold target
  split <;> decide

theorem Level.noControl (level : Level) : NoControl level.name.toList := by
  cases level <;> decide

namespace Log

variable {time : String} {e : Event}

theorem noControl_fieldText {f : Field} (name : NoControl f.name.toList)
    (text : NoControl f.text.toList) : NoControl (fieldText f).toList := by
  show NoControl (" " ++ f.name ++ "=" ++ if f.isQuoted then quoted f.text else f.text).toList
  simp only [noControl_text_append]
  refine ⟨⟨⟨by decide, name⟩, by decide⟩, ?_⟩
  split
  · exact noControl_quoted f.text
  · exact text

theorem noControl_wordsLine (htime : NoControl time.toList) (clear : e.Clear) :
    NoControl (wordsLine time e).toList := by
  have fields : NoControl (String.join (e.fields.map fieldText)).toList := by
    rw [String.toList_join]
    refine noControl_flatMap fun part hpart => ?_
    obtain ⟨f, hf, rfl⟩ := List.mem_map.mp hpart
    exact noControl_fieldText (clear.fields f hf).1 (clear.fields f hf).2
  have indent : ∀ n, NoControl (String.ofList (List.replicate n ' ')).toList := by
    intro n c hc
    rw [String.toList_ofList] at hc
    rw [List.eq_of_mem_replicate hc]
    decide
  show NoControl (time ++ " " ++ String.ofList (List.replicate (5 - e.level.name.length) ' ') ++
    e.level.name ++ " " ++ e.target ++ ": " ++ e.message ++
    String.join (e.fields.map fieldText)).toList
  simp only [noControl_text_append]
  exact ⟨⟨⟨⟨⟨⟨⟨⟨htime, by decide⟩, indent _⟩, e.level.noControl⟩, by decide⟩, e.noControl_target⟩,
    by decide⟩, clear.message⟩, fields⟩

theorem noControl_objectLine (htime : NoControl time.toList) (clear : e.Clear) :
    NoControl (objectLine time e).toList := by
  have members : ∀ m ∈ (fieldMembers e).map fun f => member f.1 f.2, NoControl m := by
    intro m hm
    obtain ⟨⟨name, text⟩, hmem, rfl⟩ := List.mem_map.mp hm
    rcases List.mem_cons.mp (List.mem_mergeSort.mp hmem) with same | field
    · cases same
      have name : NoControl "message".toList := by decide
      exact noControl_member name clear.message
    · obtain ⟨f, hf, same⟩ := List.mem_map.mp field
      cases same
      exact noControl_member (clear.fields f hf).1 (clear.fields f hf).2
  have named : NoControl (Json.writeString "fields" ++ [':']) := by decide
  simp only [objectLine, String.toList_ofList]
  refine noControl_object fun m hm => ?_
  simp only [List.mem_cons, List.not_mem_nil, or_false] at hm
  rcases hm with rfl | rfl | rfl | rfl
  · rw [List.append_cons, noControl_append]
    exact ⟨named, noControl_object members⟩
  · exact noControl_member (by decide) e.level.noControl
  · exact noControl_member (by decide) e.noControl_target
  · exact noControl_member (by decide) htime

/-- **A line of the log has no control unless the event has one**, in either format. -/
theorem noControl_line (format : Format) (htime : NoControl time.toList) (clear : e.Clear) :
    NoControl (format.line time e).toList := by
  cases format with
  | text => exact noControl_wordsLine htime clear
  | json => exact noControl_objectLine htime clear

end Log

end LinkLedger
