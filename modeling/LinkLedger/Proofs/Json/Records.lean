import LinkLedger.Json.Record
import LinkLedger.Proofs.Json.Skipping
import LinkLedger.Proofs.Store.Healthy

/-!
# Records in any spelling

A record may be spelled as an object, with its fields in any order, members that it does not know
between them and blanks wherever they may stand, or as an array of its fields in order
(`Shape.Spells`). What the program itself writes is one of these spellings (`spells_writeObject`).

**`readWhole_of_spells`: whatever the spelling, the fields are read as they are.**
-/

set_option autoImplicit false

namespace LinkLedger.Json

open LinkLedger.Text

/-! ## Fields -/

def FieldValue.kind : FieldValue → FieldKind
  | .word _ => .word
  | .text _ => .text

/-- The value of a field as it is written. -/
def FieldValue.json : FieldValue → Value
  | .word w => .number w.toNat
  | .text t => .string t

inductive SpellsField : FieldValue → List Char → Prop
  | word (word : UInt64) : SpellsField (.word word) (decimal word.toNat)
  | text {text : String} {spelled : List Char} (h : SpellsString text spelled) :
    SpellsField (.text text) spelled

theorem SpellsField.begins {value : FieldValue} {spelled : List Char}
    (h : SpellsField value spelled) : ∃ c more, spelled = c :: more ∧ opensValue c = true := by
  cases h with
  | word word =>
    obtain ⟨c, more, same, digit⟩ := (isWhole_decimal word.toNat).begins
    exact ⟨c, more, same, by rw [opensValue, digit]; rfl⟩
  | text h =>
    obtain ⟨chars⟩ := h
    exact ⟨'"', _, rfl, rfl⟩

theorem spellsField_write (value : FieldValue) : SpellsField value value.json.write := by
  cases value with
  | word word => exact .word word
  | text text => exact .text (spellsString_writeString text)

theorem read_spelled {value : FieldValue} {before spelled : List Char} (blank : Blanks before)
    (h : SpellsField value spelled) {rest : Input} (ends : EndsNumber rest) :
    value.kind.read (before.map Piece.char ++ (spelled.map Piece.char ++ rest)) =
      .ok (value, rest) := by
  cases h with
  | word word => rw [FieldValue.kind, FieldKind.read, readWord64_decimal blank word ends]; rfl
  | text h => rw [FieldValue.kind, FieldKind.read, readText_spelled blank h]; rfl

/-! ## Separators -/

/-- What stands in front of a member or an element: nothing if it is the first, else a comma. -/
inductive Leads : Bool → List Char → Prop
  | first : Leads true []
  | later {blanks : List Char} (blank : Blanks blanks) : Leads false (blanks ++ [','])

/-! ## Members -/

/-- A member of an object for a record: one of its fields, or one that it does not know. -/
inductive SpellsMember (shape : Shape) : Fields → List Char → Prop
  | field {name : String} {value : FieldValue} {key before after spelled : List Char}
    (known : shape.fields.lookup name = some value.kind) (spells : SpellsString name key)
    (blank : Blanks before) (blank' : Blanks after) (h : SpellsField value spelled) :
    SpellsMember shape [(name, value)] (key ++ (before ++ ':' :: (after ++ spelled)))
  | other {name : String} {key before after value : List Char}
    (unknown : shape.fields.lookup name = none) (spells : SpellsString name key)
    (blank : Blanks before) (blank' : Blanks after) (h : IsValue value) :
    SpellsMember shape [] (key ++ (before ++ ':' :: (after ++ value)))

/-- Members, a comma between them, and the fields that they give. -/
inductive SpellsMembers (shape : Shape) : Fields → List Char → Prop
  | last {fields : Fields} {before member after : List Char} (blank : Blanks before)
    (h : SpellsMember shape fields member) (blank' : Blanks after) :
    SpellsMembers shape fields (before ++ (member ++ after))
  | more {fields others : Fields} {before member after members : List Char} (blank : Blanks before)
    (h : SpellsMember shape fields member) (blank' : Blanks after)
    (rest : SpellsMembers shape others members) :
    SpellsMembers shape (fields ++ others) (before ++ (member ++ (after ++ ',' :: members)))

section

variable {shape : Shape} {seen fields : Fields} {rest : Input}

theorem colon_of_blanks {before : List Char} (blank : Blanks before) (rest : Input) :
    Shape.readMember.colon (before.map Piece.char ++ .char ':' :: rest) = .ok rest := by
  simp [Shape.readMember.colon, skipBlank_append blank, skipBlank]

theorem readMember_spelled {member : List Char} (h : SpellsMember shape fields member)
    (fresh : ∀ field ∈ fields, seen.lookup field.1 = none) (ends : EndsNumber rest) :
    ∃ behind, member.map Piece.char ++ rest = .char '"' :: behind ∧
      shape.readMember seen behind = .ok (seen ++ fields, rest) := by
  cases h with
  | @field name value _ _ _ _ known spells blank blank' h =>
    obtain ⟨behind, begins, read⟩ := readString_spelled spells _
    refine ⟨behind, by simpa using begins, ?_⟩
    have unset : seen.lookup name = none := fresh (name, value) List.mem_cons_self
    have taken := read_spelled blank' h ends
    simp only [Shape.readMember, read, known, unset, inside, colon_of_blanks blank, taken, bind,
      Except.bind, pure, Except.pure, Option.isSome_none, Bool.false_eq_true, if_false]
  | other unknown spells blank blank' h =>
    obtain ⟨behind, begins, read⟩ := readString_spelled spells _
    refine ⟨behind, by simpa using begins, ?_⟩
    have skipped := skipValue_of_isValue blank' h ends
    simp only [Shape.readMember, read, unknown, inside, colon_of_blanks blank, skipped, bind,
      Except.bind, pure, Except.pure, List.append_nil]

theorem SpellsMember.length_pos {member : List Char} (h : SpellsMember shape fields member) :
    0 < member.length := by
  cases h with
  | field _ spells =>
    obtain ⟨chars⟩ := spells
    exact Nat.zero_lt_succ _
  | other _ spells =>
    obtain ⟨chars⟩ := spells
    exact Nat.zero_lt_succ _

theorem fresh_of_nodup (once : ((seen ++ fields).map Prod.fst).Nodup) :
    ∀ field ∈ fields, seen.lookup field.1 = none := by
  intro field new
  refine List.lookup_eq_none_iff.mpr fun old there => ?_
  rw [List.map_append] at once
  have apart := (List.nodup_append.mp once).2.2 _ (List.mem_map_of_mem there) _
    (List.mem_map_of_mem new)
  simpa using apart.symm

theorem readMembers_member {member before lead : List Char} {isFirst : Bool}
    (leads : Leads isFirst lead) (blank : Blanks before) (h : SpellsMember shape fields member)
    (fresh : ∀ field ∈ fields, seen.lookup field.1 = none) (ends : EndsNumber rest) (steps : Nat) :
    shape.readMembers (steps + 1) isFirst seen (lead.map Piece.char ++
        (before.map Piece.char ++ (member.map Piece.char ++ rest))) =
      shape.readMembers steps false (seen ++ fields) rest := by
  obtain ⟨behind, begins, read⟩ := readMember_spelled h fresh ends
  have solid : skipBlank (before.map Piece.char ++ .char '"' :: behind) = .char '"' :: behind := by
    rw [skipBlank_append blank]
    exact skipBlank_of_opensValue rfl behind
  rw [begins]
  cases leads with
  | first => simp [Shape.readMembers, solid, read, bind, Except.bind]
  | later blank' =>
    simp [Shape.readMembers, skipBlank_append blank', skipBlank, solid, read, bind, Except.bind]

theorem readMembers_end {after : List Char} (blank : Blanks after) (steps : Nat) (isFirst : Bool)
    (rest : Input) :
    shape.readMembers (steps + 1) isFirst seen (after.map Piece.char ++ .char '}' :: rest) =
      .ok (seen, rest) := by
  simp [Shape.readMembers, skipBlank_append blank, skipBlank]

/-- Members are read one by one. Each has a character at least, so there are steps for all. -/
theorem readMembers_spelled {members lead : List Char} {isFirst : Bool}
    (leads : Leads isFirst lead) (h : SpellsMembers shape fields members)
    (once : ((seen ++ fields).map Prod.fst).Nodup) {steps : Nat} (enough : members.length < steps) :
    shape.readMembers steps isFirst seen
        (lead.map Piece.char ++ (members.map Piece.char ++ .char '}' :: rest)) =
      .ok (seen ++ fields, rest) := by
  induction h generalizing lead isFirst seen steps with
  | @last fields before member after blank h blank' =>
    have some := h.length_pos
    simp only [List.length_append] at enough
    obtain ⟨more, rfl⟩ : ∃ more, steps = more + 1 + 1 := ⟨steps - 2, by omega⟩
    have ends : EndsNumber (after.map Piece.char ++ .char '}' :: rest) :=
      .blank blank' (endsNumber_closing .object rest)
    simp only [List.map_append, List.append_assoc]
    rw [readMembers_member leads blank h (fresh_of_nodup once) ends, readMembers_end blank']
  | @more fields others before member after members blank h blank' _ ih =>
    obtain ⟨more, rfl⟩ : ∃ more, steps = more + 1 := ⟨steps - 1, by omega⟩
    have left : members.length < more := by
      simp only [List.length_append, List.length_cons] at enough
      omega
    rw [← List.append_assoc] at once ⊢
    have fresh := fresh_of_nodup (once.sublist ((List.sublist_append_left _ _).map _))
    have ends := (endsNumber_comma (members.map Piece.char ++ .char '}' :: rest)).blank blank'
    have following := ih (.later blank') once left
    simp only [List.map_append, List.map_cons, List.map_nil, List.append_assoc, List.cons_append,
      List.nil_append] at following ⊢
    rw [readMembers_member leads blank h fresh ends, following]

end

theorem collect_eq_ok {shape : Shape} {seen : Fields} {values : List FieldValue}
    (complete : List.Forall₂ (fun field value => seen.lookup field.1 = some value) shape.fields
      values) : shape.collect seen = .ok values := by
  obtain ⟨name, fields⟩ := shape
  unfold Shape.collect
  dsimp only at complete ⊢
  induction complete with
  | nil => rfl
  | cons found _ ih => rw [List.mapM_cons, ih, found]; rfl

/-! ## Elements -/

/-- The elements of an array for a record. -/
inductive SpellsElements : List FieldValue → List Char → Prop
  | last {value : FieldValue} {before spelled : List Char} (blank : Blanks before)
    (h : SpellsField value spelled) : SpellsElements [value] (before ++ spelled)
  | more {value : FieldValue} {values : List FieldValue} {before spelled after elements : List Char}
    (blank : Blanks before) (h : SpellsField value spelled) (blank' : Blanks after)
    (rest : SpellsElements values elements) :
    SpellsElements (value :: values) (before ++ (spelled ++ (after ++ ',' :: elements)))

section

variable {shape : Shape} {i : Nat} {seen : List FieldValue} {lead : List Char} {rest : Input}

theorem readElements_element {name : String} {value : FieldValue}
    {fields : List (String × FieldKind)} {before spelled : List Char}
    (leads : Leads (decide (i = 0)) lead) (blank : Blanks before) (h : SpellsField value spelled)
    (ends : EndsNumber rest) :
    shape.readElements i seen ((name, value.kind) :: fields)
        (lead.map Piece.char ++ (before.map Piece.char ++ (spelled.map Piece.char ++ rest))) =
      shape.readElements (i + 1) (seen ++ [value]) fields rest := by
  have read := read_spelled blanks_nil h ends
  obtain ⟨c, more, rfl, opens⟩ := h.begins
  have notClosing : c ≠ ']' := by
    rintro rfl
    cases opens
  rw [List.map_nil, List.nil_append, List.map_cons, List.cons_append] at read
  rw [List.map_cons, List.cons_append]
  have solid : skipBlank (before.map Piece.char ++ .char c :: (more.map Piece.char ++ rest)) =
      .char c :: (more.map Piece.char ++ rest) := by
    rw [skipBlank_append blank, skipBlank_of_opensValue opens]
  generalize first : decide (i = 0) = isFirst at leads
  cases leads with
  | first =>
    have first : i = 0 := of_decide_eq_true first
    simp [Shape.readElements, solid, first, read, inside, bind, Except.bind]
  | later blank' =>
    have first : i ≠ 0 := of_decide_eq_false first
    simp [Shape.readElements, skipBlank_append blank', skipBlank, solid, notClosing, first, read,
      inside, bind, Except.bind]

theorem readElements_spelled {values : List FieldValue} {fields : List (String × FieldKind)}
    {elements : List Char} (leads : Leads (decide (i = 0)) lead)
    (kinds : fields.map Prod.snd = values.map FieldValue.kind)
    (h : SpellsElements values elements) (ends : EndsNumber rest) :
    shape.readElements i seen fields (lead.map Piece.char ++ (elements.map Piece.char ++ rest)) =
      .ok (seen ++ values, rest) := by
  induction h generalizing i seen fields lead with
  | last blank h =>
    obtain ⟨⟨name, _⟩, others, rfl, rfl, nothing⟩ := List.map_eq_cons_iff.mp kinds
    obtain rfl := List.map_eq_nil_iff.mp nothing
    simp only [List.map_append, List.append_assoc]
    rw [readElements_element leads blank h ends, Shape.readElements]
  | @more value values before spelled after elements blank h blank' _ ih =>
    obtain ⟨⟨name, _⟩, others, rfl, rfl, kinds'⟩ := List.map_eq_cons_iff.mp kinds
    have ends' := (endsNumber_comma (elements.map Piece.char ++ rest)).blank blank'
    have following := @ih (i + 1) (seen ++ [value]) _ others (.later blank') kinds'
    simp only [List.map_append, List.map_cons, List.map_nil, List.append_assoc, List.cons_append,
      List.nil_append] at following ⊢
    rw [readElements_element leads blank h ends', following]

end

/-! ## Records -/

inductive SpellsRecord (shape : Shape) : List FieldValue → List Char → Prop
  /-- The fields that the members give are those of the record, each given once. -/
  | object {fields : Fields} {values : List FieldValue} {members : List Char}
    (once : (fields.map Prod.fst).Nodup)
    (complete : List.Forall₂ (fun field value => fields.lookup field.1 = some value) shape.fields
      values)
    (h : SpellsMembers shape fields members) : SpellsRecord shape values ('{' :: members ++ ['}'])
  | array {values : List FieldValue} {elements after : List Char}
    (kinds : shape.fields.map Prod.snd = values.map FieldValue.kind)
    (h : SpellsElements values elements) (blank : Blanks after) :
    SpellsRecord shape values ('[' :: elements ++ (after ++ [']']))

/-- A text spells the fields of a record, in order: nothing but blanks stands around it. -/
def Shape.Spells (shape : Shape) (values : List FieldValue) (text : String) : Prop :=
  ∃ before record after, text.toList = before ++ (record ++ after) ∧ Blanks before ∧
    SpellsRecord shape values record ∧ Blanks after

theorem read_record {shape : Shape} {values : List FieldValue} {before record : List Char}
    (blank : Blanks before) (h : SpellsRecord shape values record) (rest : Input) :
    shape.read (before.map Piece.char ++ (record.map Piece.char ++ rest)) = .ok (values, rest) := by
  cases h with
  | @object fields values members once complete h =>
    have enough : members.length < (members.map Piece.char ++ .char '}' :: rest).length + 1 := by
      simp only [List.length_append, List.length_map]
      omega
    have read := @readMembers_spelled shape [] fields rest members [] true .first h once _ enough
    simp only [List.map_append, List.map_cons, List.map_nil, List.append_assoc, List.cons_append,
      List.nil_append] at read ⊢
    rw [Shape.read, skipBlank_append blank, skipBlank_of_opensValue rfl]
    simp only [read, collect_eq_ok complete, bind, Except.bind, pure, Except.pure]
  | @array values elements after kinds h blank' =>
    have ends : EndsNumber (after.map Piece.char ++ .char ']' :: rest) :=
      (endsNumber_closing .list rest).blank blank'
    have read := @readElements_spelled shape 0 [] [] _ values _ elements .first kinds h ends
    have closed : closeArray (after.map Piece.char ++ .char ']' :: rest) = .ok rest := by
      simp [closeArray, skipBlank_append blank', skipBlank]
    simp only [List.map_append, List.map_cons, List.map_nil, List.append_assoc, List.cons_append,
      List.nil_append] at read ⊢
    rw [Shape.read, skipBlank_append blank, skipBlank_of_opensValue rfl]
    simp only [read, closed, inside, bind, Except.bind, pure, Except.pure]

/-- **Whatever the spelling, the fields are read as they are.** -/
theorem readWhole_of_spells {shape : Shape} {values : List FieldValue} {text : String}
    (h : shape.Spells values text) : shape.readWhole (piecesOf text) = .ok values := by
  obtain ⟨before, record, after, same, blank, h, blank'⟩ := h
  have read := read_record blank h (after.map Piece.char)
  have blanks : atEnd (after.map Piece.char) = .ok () := by
    have skipped := skipBlank_append blank' []
    rw [List.append_nil] at skipped
    simp [atEnd, skipped, skipBlank]
  rw [← List.map_append, ← List.map_append, ← same] at read
  simp only [Shape.readWhole, piecesOf, read, blanks, inside, bind, Except.bind, pure, Except.pure]

/-! ## Records as they are written -/

theorem spellsMember_write {shape : Shape} {name : String} {value : FieldValue}
    (known : shape.fields.lookup name = some value.kind) :
    SpellsMember shape [(name, value)] (writeString name ++ ':' :: value.json.write) :=
  .field known (spellsString_writeString name) blanks_nil blanks_nil (spellsField_write value)

theorem spellsMembers_write {shape : Shape} {fields : Fields} (nonempty : fields ≠ [])
    (known : ∀ field ∈ fields, shape.fields.lookup field.1 = some field.2.kind) :
    SpellsMembers shape fields
      (writeMembers (fields.map fun field => (field.1, field.2.json))) := by
  induction fields with
  | nil => exact absurd rfl nonempty
  | cons field others ih =>
    obtain ⟨first, known⟩ := List.forall_mem_cons.mp known
    cases others with
    | nil =>
      simpa [writeMembers] using
        SpellsMembers.last blanks_nil (spellsMember_write first) blanks_nil
    | cons next others =>
      have following := ih (List.cons_ne_nil _ _) known
      simpa [writeMembers] using
        SpellsMembers.more blanks_nil (spellsMember_write first) blanks_nil following

/-- What the program writes is a spelling of what it writes. -/
theorem spells_writeObject (name : String) {fields : Fields} (nonempty : fields ≠ [])
    (once : (fields.map Prod.fst).Nodup) :
    (Shape.mk name (fields.map fun field => (field.1, field.2.kind))).Spells (fields.map Prod.snd)
      (writeObject (fields.map fun field => (field.1, field.2.json))) := by
  have there : ∀ field ∈ fields, fields.lookup field.1 = some field.2 :=
    fun field h => (lookup_eq_some_iff_mem once).mpr h
  refine ⟨[], _, [], ?_, blanks_nil, .object once ?_ (spellsMembers_write nonempty ?_), blanks_nil⟩
  · simp [writeObject]
  · rw [List.forall₂_map_left_iff, List.forall₂_map_right_iff]
    exact List.forall₂_same.mpr there
  · intro field h
    have once' : ((fields.map fun field => (field.1, field.2.kind)).map Prod.fst).Nodup := by
      rw [List.map_map]
      exact once
    exact (lookup_eq_some_iff_mem once').mpr (List.mem_map_of_mem h)

end LinkLedger.Json
