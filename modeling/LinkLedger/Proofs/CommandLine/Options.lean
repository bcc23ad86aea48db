import Mathlib.Data.List.TakeWhile
import Mathlib.Tactic.SplitIfs
import LinkLedger.Proofs.Jobs

/-!
# Options in front of a command

An option and its value are written as one word, joined by an equals sign, or as two, if the value
cannot be taken for an option itself (`WritesOptions`). Reading takes the options one by one and
enters their values in the same order (`Given.enter`), a value behind its option only when the next
word has been looked at.

**`readScope_options_iff`: a command is reached exactly if options are written in front of it whose
values can all be entered.**
-/

set_option autoImplicit false

namespace LinkLedger.CommandLine

/-- What is read in two steps is read if the first succeeds, and the second from there. -/
theorem bind_eq_ok_iff {ε α β : Type} {x : Except ε α} {f : α → Except ε β} {b : β} :
    x >>= f = .ok b ↔ ∃ a, x = .ok a ∧ f a = .ok b := by
  cases x <;> simp [bind, Except.bind]

/-! ## Words -/

/-- A word that is no option: it begins with no dash, or it is one. -/
def StandsAlone (word : String) : Prop := Undashed word ∨ word = "-"

theorem exists_toList_of_dashed {word : String} (dashed : ¬Undashed word) :
    ∃ rest, word.toList = '-' :: rest :=
  List.head?_eq_some_iff.mp (Decidable.not_not.mp dashed)

theorem longOption?_of_dashes {word : String} {c : Char} {rest : List Char}
    (dashes : word.toList = '-' :: '-' :: c :: rest) : longOption? word ≠ none := by
  simp only [longOption?, dashes]
  split <;> simp

theorem standsAlone_iff {word : String} :
    StandsAlone word ↔ word ≠ "--" ∧ longOption? word = none ∧ shortOption? word = none := by
  constructor
  · rintro (undashed | rfl)
    · exact ⟨fun h => undashed (by rw [h]; rfl), undashed.longOption?_eq, undashed.shortOption?_eq⟩
    · exact ⟨by decide, rfl, rfl⟩
  · rintro ⟨notEnd, notLong, notShort⟩
    by_cases undashed : Undashed word
    · exact .inl undashed
    obtain ⟨rest, dashed⟩ := exists_toList_of_dashed undashed
    match rest with
    | [] => exact .inr (String.toList_inj.mp dashed)
    | ['-'] => exact absurd (String.toList_inj.mp dashed) notEnd
    | '-' :: c :: more => exact absurd notLong (longOption?_of_dashes dashed)
    | c :: more =>
      simp only [shortOption?, dashed] at notShort
      split_ifs at notShort with second
      subst second
      cases more with
      | nil => exact absurd (String.toList_inj.mp dashed) notEnd
      | cons d more => exact absurd notLong (longOption?_of_dashes dashed)

/-- An option with its value behind an equals sign, or without a value. -/
def optionWord (name : String) : Option String → String
  | none => "--" ++ name
  | some value => "--" ++ name ++ "=" ++ value

theorem eq_optionWord {word name : String} {value : Option String}
    (long : longOption? word = some (name, value)) : word = optionWord name value := by
  unfold longOption? at long
  split at long
  next c rest dashes =>
    have whole : (c :: rest).takeWhile (· ≠ '=') ++ (c :: rest).dropWhile (· ≠ '=') = c :: rest :=
      List.takeWhile_append_dropWhile
    have stops := List.head?_dropWhile_not (· ≠ '=') (c :: rest)
    dsimp only at long
    generalize (c :: rest).takeWhile (· ≠ '=') = front at long whole
    generalize (c :: rest).dropWhile (· ≠ '=') = back at long whole stops
    rw [← whole] at dashes
    apply String.toList_inj.mp
    cases back with
    | nil =>
      obtain ⟨rfl, rfl⟩ := Prod.mk.inj (Option.some.inj long)
      simpa [optionWord] using dashes
    | cons d more =>
      obtain rfl : d = '=' := by simpa using stops
      obtain ⟨rfl, rfl⟩ := Prod.mk.inj (Option.some.inj long)
      simpa [optionWord] using dashes
  next => cases long

theorem longOption?_optionWord (key : Key) (value : Option String) :
    longOption? (optionWord key.name value) = some (key.name, value) := by
  have plain : ∀ c ∈ key.name.toList, decide (c ≠ '=') = true :=
    List.all_eq_true.mp (by cases key <;> rfl)
  obtain ⟨c, rest, name⟩ : ∃ c rest, key.name.toList = c :: rest := by
    cases key <;> exact ⟨_, _, rfl⟩
  rw [name] at plain
  have whole : String.ofList (c :: rest) = key.name := by rw [← name, String.ofList_toList]
  cases value with
  | none =>
    have dashes : (optionWord key.name none).toList = '-' :: '-' :: c :: rest := by
      simp [optionWord, name]
    simp only [longOption?, dashes, List.takeWhile_eq_self_iff.mpr plain,
      List.dropWhile_eq_nil_iff.mpr plain, whole]
  | some value =>
    have dashes : (optionWord key.name (some value)).toList =
        '-' :: '-' :: c :: (rest ++ '=' :: value.toList) := by
      simp [optionWord, name]
    have taken : (c :: (rest ++ '=' :: value.toList)).takeWhile (· ≠ '=') = c :: rest := by
      rw [← List.cons_append, List.takeWhile_append_of_pos plain,
        List.takeWhile_cons_of_neg (by simp), List.append_nil]
    have left : (c :: (rest ++ '=' :: value.toList)).dropWhile (· ≠ '=') = '=' :: value.toList := by
      rw [← List.cons_append, List.dropWhile_append_of_pos plain,
        List.dropWhile_cons_of_neg (by simp)]
    simp only [longOption?, dashes, taken, left, whole, String.ofList_toList]

/-- Words that write options with their values. -/
inductive WritesOptions (keys : List Key) : List (Key × String) → List String → Prop
  | nil : WritesOptions keys [] []
  /-- The value stands behind an equals sign. -/
  | joined {key : Key} (known : key ∈ keys) (value : String) {options : List (Key × String)}
    {words : List String} (more : WritesOptions keys options words) :
    WritesOptions keys ((key, value) :: options) (optionWord key.name (some value) :: words)
  /-- The value is the next word. -/
  | apart {key : Key} (known : key ∈ keys) {value : String} (alone : StandsAlone value)
    {options : List (Key × String)} {words : List String}
    (more : WritesOptions keys options words) :
    WritesOptions keys ((key, value) :: options) (optionWord key.name none :: value :: words)

/-! ## Values -/

/-- Gives options their values one after another; none may be given twice. -/
def Given.enter (g : Given) : List (Key × String) → Except Stop Given
  | [] => .ok g
  | (key, value) :: more =>
    if g.has key then .error (.repeated key) else do enter (← g.take key value) more

theorem Given.enter_append (g : Given) (options more : List (Key × String)) :
    g.enter (options ++ more) = (g.enter options).bind fun g => g.enter more := by
  induction options generalizing g with
  | nil => rfl
  | cons option options ih =>
    simp only [List.cons_append, enter, bind]
    split_ifs
    · rfl
    · cases g.take option.1 option.2 with
      | error stop => rfl
      | ok g => exact ih g

namespace Reading

variable {r r' : Reading}

/-- The option whose value has come but is not entered yet. -/
def waiting (r : Reading) : List (Key × String) :=
  match r.pending with
  | some (key, some value) => [(key, value)]
  | _ => []

theorem give_eq (r : Reading) (key : Key) (value : String) :
    r.give key value = (r.given.enter [(key, value)]).map fun g => { r with given := g } := by
  simp only [give, Given.enter, bind]
  split_ifs
  · rfl
  · cases r.given.take key value <;> rfl

theorem settle_eq_ok_iff :
    r.settle = .ok r' ↔ r.awaitsValue = false ∧ ∃ g, r.given.enter r.waiting = .ok g ∧
      r' = { r with given := g, pending := none } := by
  obtain ⟨given, operand, pending, onlyOperands⟩ := r
  match pending with
  | none => simp [settle, awaitsValue, waiting, Given.enter, eq_comm]
  | some (key, none) => simp [settle, awaitsValue]
  | some (key, some value) =>
    simp only [settle, give_eq, awaitsValue, waiting, true_and]
    cases given.enter [(key, value)] <;> simp [Except.map, eq_comm]

/-- Settles the last option and takes another one, whose value may be missing yet. -/
def addOption (r : Reading) (key : Key) (value : Option String) : Except Stop Reading := do
  let r ← r.settle
  match value with
  | some value => r.give key value
  | none => return { r with pending := some (key, none) }

theorem addOption_some_eq_ok_iff {key : Key} {value : String} :
    r.addOption key (some value) = .ok r' ↔ r.awaitsValue = false ∧
      ∃ g, r.given.enter (r.waiting ++ [(key, value)]) = .ok g ∧
        r' = { r with given := g, pending := none } := by
  simp only [addOption, bind_eq_ok_iff, settle_eq_ok_iff, give_eq, Given.enter_append]
  constructor
  · rintro ⟨_, ⟨settled, g, entered, rfl⟩, gave⟩
    refine ⟨settled, ?_⟩
    rw [entered]
    dsimp only at gave
    cases entered' : g.enter [(key, value)] with
    | error stop => simp [entered', Except.map] at gave
    | ok g' =>
      rw [entered'] at gave
      exact ⟨g', entered', (Except.ok.inj gave).symm⟩
  · rintro ⟨settled, g, entered, rfl⟩
    obtain ⟨g', entered, entered'⟩ := bind_eq_ok_iff.mp entered
    exact ⟨_, ⟨settled, g', entered, rfl⟩, by simp [entered', Except.map]⟩

theorem addOption_none_eq_ok_iff {key : Key} :
    r.addOption key none = .ok r' ↔ r.awaitsValue = false ∧
      ∃ g, r.given.enter r.waiting = .ok g ∧
        r' = { r with given := g, pending := some (key, none) } := by
  simp only [addOption, bind_eq_ok_iff, settle_eq_ok_iff, pure, Except.pure, Except.ok.injEq]
  constructor
  · rintro ⟨_, ⟨settled, g, entered, rfl⟩, rfl⟩
    exact ⟨settled, g, entered, rfl⟩
  · rintro ⟨settled, g, entered, rfl⟩
    exact ⟨_, ⟨settled, g, entered, rfl⟩, rfl⟩

/-- Words go on from what has been read: they write options, behind the value that the last option
    waits for. -/
def Continues (r : Reading) (options : List (Key × String)) (words : List String) : Prop :=
  match r.pending with
  | some (key, none) => ∃ value more behind, options = (key, value) :: more ∧
      words = value :: behind ∧ StandsAlone value ∧ WritesOptions Scope.outer.keys more behind
  | _ => ∃ more, options = r.waiting ++ more ∧ WritesOptions Scope.outer.keys more words

theorem continues_of_settled (settled : r.awaitsValue = false) {options : List (Key × String)}
    {words : List String} :
    r.Continues options words ↔
      ∃ more, options = r.waiting ++ more ∧ WritesOptions Scope.outer.keys more words := by
  obtain ⟨given, operand, pending, onlyOperands⟩ := r
  match pending with
  | none => rfl
  | some (key, some value) => rfl
  | some (key, none) => cases settled

end Reading

/-! ## Steps in front of the command -/

section

variable {r r' : Reading} {word : String} {words : List String} {name : CommandName}
  {rest : List String}

theorem readOperand_outer (r : Reading) (word : String) :
    ∃ stop, readOperand .outer r word = .error stop := by
  simp only [readOperand, Scope.operand?, Option.isSome_none, Bool.false_eq_true, false_and,
    if_false, if_true]
  split <;> exact ⟨_, rfl⟩

theorem readFlag_eq_error (r : Reading) (stop : Stop) :
    ∃ stop', readFlag r stop = .error stop' := by
  unfold readFlag
  split <;> exact ⟨_, rfl⟩

theorem readShort_eq_error (scope : Scope) (r : Reading) (letter : Char) :
    ∃ stop, readShort scope r letter = .error stop := by
  unfold readShort
  split_ifs
  · exact readFlag_eq_error _ _
  · exact readFlag_eq_error _ _
  · exact ⟨_, rfl⟩

theorem readLong_outer_eq_ok_iff {name : String} {value : Option String} :
    readLong .outer r name value = .ok r' ↔
      ∃ key ∈ Scope.outer.keys, key.name = name ∧ r.addOption key value = .ok r' := by
  have own : ∀ key ∈ Scope.outer.keys,
      (Scope.outer.keys.find? fun other => other.name = key.name) = some key := by decide
  constructor
  · intro read
    unfold readLong at read
    dsimp only at read
    split at read
    next key found =>
      refine ⟨key, List.mem_of_find?_eq_some found, by simpa using List.find?_some found, read⟩
    next =>
      have flag (stop : Stop) (flagged : (match value with
          | none => readFlag r stop
          | some value => .error (.needlessValue s!"--{name}" value)) = .ok r') : False := by
        cases value with
        | none =>
          obtain ⟨stop', error⟩ := readFlag_eq_error r stop
          cases error.symm.trans flagged
        | some value => cases flagged
      split_ifs at read
      · exact (flag _ read).elim
      · exact (flag _ read).elim
  · rintro ⟨key, known, rfl, added⟩
    simp only [readLong, own key known]
    exact added

/-- Behind `--` no command is reached. -/
theorem readScope_onlyOperands (only : r.onlyOperands = true) :
    readScope .outer r words ≠ .ok (r', some (name, rest)) := by
  cases words with
  | nil => simp [readScope]
  | cons word words =>
    obtain ⟨stop, error⟩ := readOperand_outer r word
    simp [readScope, only, error, bind, Except.bind]

/-- What one more word can do if a command is reached in the end. -/
theorem readScope_cons_cases (anything : r.onlyOperands = false)
    (read : readScope .outer r (word :: words) = .ok (r', some (name, rest))) :
    (r.awaitsValue = false ∧ word = name.name ∧ words = rest ∧ r = r') ∨
    (∃ key ∈ Scope.outer.keys, ∃ value next, word = optionWord key.name value ∧
      r.addOption key value = .ok next ∧
      readScope .outer next words = .ok (r', some (name, rest))) ∨
    ∃ key, r.pending = some (key, none) ∧ StandsAlone word ∧
      readScope .outer { r with pending := some (key, some word) } words =
        .ok (r', some (name, rest)) := by
  unfold readScope at read
  rw [if_neg (by simp [anything])] at read
  dsimp only at read
  split at read
  · cases read
  split at read
  next command found =>
    cases read
    split_ifs at found with mayBe
    have same : name.name = word := by simpa using List.find?_some found
    exact .inl ⟨by simpa using mayBe, same.symm, rfl, rfl⟩
  next =>
    split at read
    · exact absurd read (readScope_onlyOperands rfl)
    next notEnd =>
      split at read
      next name value long =>
        obtain ⟨next, taken, continued⟩ := bind_eq_ok_iff.mp read
        obtain ⟨key, known, same, added⟩ := readLong_outer_eq_ok_iff.mp taken
        exact .inr (.inl ⟨key, known, value, next, same ▸ eq_optionWord long, added, continued⟩)
      next letter _ _ =>
        obtain ⟨stop, error⟩ := readShort_eq_error .outer r letter
        rw [error] at read
        cases read
      next _ _ _ key notLong notShort pending =>
        exact .inr (.inr ⟨key, pending, standsAlone_iff.mpr ⟨notEnd, notLong, notShort⟩, read⟩)
      next =>
        obtain ⟨stop, error⟩ := readOperand_outer r word
        rw [error] at read
        cases read

theorem readScope_command (anything : r.onlyOperands = false) (settled : r.awaitsValue = false)
    (name : CommandName) (rest : List String) :
    readScope .outer r (name.name :: rest) = .ok (r, some (name, rest)) := by
  have noHelp : name.name ≠ "help" := by cases name <;> decide
  have found : (CommandName.all.find? fun n => n.name = name.name) = some name := by
    cases name <;> rfl
  simp [readScope, anything, settled, noHelp, found]

theorem readScope_optionWord (anything : r.onlyOperands = false) {key : Key}
    (known : key ∈ Scope.outer.keys) {value : Option String} {next : Reading}
    (added : r.addOption key value = .ok next) (words : List String) :
    readScope .outer r (optionWord key.name value :: words) = readScope .outer next words := by
  have long := longOption?_optionWord key value
  -- No other word that means something is a long option.
  have others : ∀ word ∈ "help" :: "--" :: CommandName.all.map CommandName.name,
      optionWord key.name value ≠ word := by
    intro word hword same
    have short : ∀ word ∈ "help" :: "--" :: CommandName.all.map CommandName.name,
        longOption? word = none := by decide
    rw [same, short word hword] at long
    cases long
  have noCommand : (CommandName.all.find? fun n => n.name = optionWord key.name value) = none := by
    rw [List.find?_eq_none]
    intro n hn
    simpa using (others n.name (by simpa using .inr (.inr ⟨n, hn, rfl⟩))).symm
  rw [readScope, if_neg (by simp [anything]), if_neg (fun h => others _ (by simp) h.2), noCommand,
    ite_self]
  dsimp only
  rw [if_neg (others _ (by simp)), long]
  dsimp only
  rw [readLong_outer_eq_ok_iff.mpr ⟨key, known, rfl, added⟩]
  rfl

theorem readScope_value (anything : r.onlyOperands = false) {key : Key}
    (pending : r.pending = some (key, none)) (alone : StandsAlone word) (words : List String) :
    readScope .outer r (word :: words) =
      readScope .outer { r with pending := some (key, some word) } words := by
  obtain ⟨notEnd, notLong, notShort⟩ := standsAlone_iff.mp alone
  have awaits : r.awaitsValue = true := by rw [Reading.awaitsValue, pending]
  simp [readScope, anything, awaits, notEnd, notLong, notShort, pending]

/-! ## Reaching the command -/

/-- By induction on the arguments: what has been read so far goes on with them. -/
theorem continues_of_readScope {arguments : List String} (anything : r.onlyOperands = false)
    (read : readScope .outer r arguments = .ok (r', some (name, rest))) {settled : Reading}
    (settles : r'.settle = .ok settled) :
    ∃ options words, r.Continues options words ∧ arguments = words ++ name.name :: rest ∧
      r.given.enter options = .ok settled.given := by
  induction arguments generalizing r with
  | nil => simp [readScope] at read
  | cons word arguments ih =>
    rcases readScope_cons_cases anything read with
      ⟨now, rfl, rfl, rfl⟩ | ⟨key, known, value, next, rfl, added, read⟩ |
        ⟨key, pending, alone, read⟩
    · obtain ⟨-, g, entered, rfl⟩ := Reading.settle_eq_ok_iff.mp settles
      have ends : r.Continues r.waiting [] :=
        (Reading.continues_of_settled now).mpr ⟨[], by simp, .nil⟩
      exact ⟨r.waiting, [], ends, rfl, entered⟩
    · cases value with
      | some value =>
        obtain ⟨now, g, entered, rfl⟩ := Reading.addOption_some_eq_ok_iff.mp added
        obtain ⟨options, words, ⟨_, rfl, more⟩, rfl, entered'⟩ :=
          ih (r := { r with given := g, pending := none }) anything read
        refine ⟨r.waiting ++ (key, value) :: options, _,
          (Reading.continues_of_settled now).mpr ⟨_, rfl, .joined known value more⟩, rfl, ?_⟩
        rw [List.append_cons, Given.enter_append, entered]
        exact entered'
      | none =>
        obtain ⟨now, g, entered, rfl⟩ := Reading.addOption_none_eq_ok_iff.mp added
        obtain ⟨_, _, ⟨value, options, words, rfl, rfl, alone, more⟩, rfl, entered'⟩ :=
          ih (r := { r with given := g, pending := some (key, none) }) anything read
        refine ⟨r.waiting ++ (key, value) :: options, _,
          (Reading.continues_of_settled now).mpr ⟨_, rfl, .apart known alone more⟩, rfl, ?_⟩
        rw [Given.enter_append, entered]
        exact entered'
    · obtain ⟨_, words, ⟨options, rfl, more⟩, rfl, entered⟩ :=
        ih (r := { r with pending := some (key, some word) }) anything read
      refine ⟨_, word :: words, ?_, rfl, entered⟩
      rw [Reading.Continues, pending]
      exact ⟨word, options, words, rfl, rfl, alone, more⟩

/-- By induction on the options that are written. -/
theorem readScope_of_writes {options : List (Key × String)}
    (writes : WritesOptions Scope.outer.keys options words) (anything : r.onlyOperands = false)
    (settled : r.awaitsValue = false) {g : Given}
    (entered : r.given.enter (r.waiting ++ options) = .ok g) :
    ∃ r' settled, readScope .outer r (words ++ name.name :: rest) = .ok (r', some (name, rest)) ∧
      r'.settle = .ok settled ∧ settled.given = g := by
  induction writes generalizing r with
  | nil =>
    rw [List.append_nil] at entered
    exact ⟨r, _, readScope_command anything settled name rest,
      Reading.settle_eq_ok_iff.mpr ⟨settled, g, entered, rfl⟩, rfl⟩
  | @joined key known value options words _ ih =>
    rw [List.append_cons, Given.enter_append] at entered
    obtain ⟨g', before, after⟩ := bind_eq_ok_iff.mp entered
    have added := Reading.addOption_some_eq_ok_iff.mpr ⟨settled, g', before, rfl⟩
    rw [List.cons_append, readScope_optionWord anything known added]
    exact ih anything rfl after
  | @apart key known value alone options words _ ih =>
    rw [Given.enter_append] at entered
    obtain ⟨g', before, after⟩ := bind_eq_ok_iff.mp entered
    have added : r.addOption key none = .ok _ :=
      Reading.addOption_none_eq_ok_iff.mpr ⟨settled, g', before, rfl⟩
    rw [List.cons_append, readScope_optionWord anything known added, List.cons_append,
      readScope_value (r := { r with given := g', pending := some (key, none) }) anything rfl alone]
    exact ih anything rfl after

/-- **A command is reached exactly if options are written in front of it** whose values can all be
    entered. -/
theorem readScope_options_iff {arguments : List String} {g : Given} :
    (∃ r settled, readScope .outer {} arguments = .ok (r, some (name, rest)) ∧
      r.settle = .ok settled ∧ settled.given = g) ↔
    ∃ options words, WritesOptions Scope.outer.keys options words ∧
      arguments = words ++ name.name :: rest ∧ Given.enter {} options = .ok g := by
  constructor
  · rintro ⟨r, settled, read, settles, rfl⟩
    obtain ⟨options, words, ⟨_, rfl, writes⟩, same, entered⟩ :=
      continues_of_readScope (r := {}) rfl read settles
    exact ⟨options, words, writes, same, entered⟩
  · rintro ⟨options, words, writes, rfl, entered⟩
    exact readScope_of_writes writes rfl rfl entered

end

end LinkLedger.CommandLine
