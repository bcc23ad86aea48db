import LinkLedger.Proofs.CommandLine.Options
import LinkLedger.Proofs.Store.Healthy

/-!
# Addresses that the storage needs

The value of an option is the one that is written, else that of its variable, else the default. A
command line is carried out exactly if each option is written once at most, every value is one that
its option takes, what stands behind the command can be read, and the storage that comes of this has
its address (`parse_eq_ok_iff`).

So **settings have the address that their storage needs** (`parsed_settings_have_their_address`): no
run fails for want of one, and an address that the storage does not need may as well be left out.
-/

set_option autoImplicit false

namespace LinkLedger.CommandLine

/-! ## Values as they are written -/

/-- The values that an option in front of the command takes: its words, if it has some. -/
def Key.Takes (key : Key) (value : String) : Prop := key.choices = [] ∨ value ∈ key.choices

namespace Given

/-- The value of an option, as it is written. -/
def text? (g : Given) : Key → Option String
  | .storage => g.storage.map Storage.name
  | .mysqlDsn => g.mysqlDsn
  | .sqliteUrl => g.sqliteUrl
  | .logFormat => g.logFormat.map Log.Format.name
  | .logLevel => g.logLevel
  | .collector => g.collector
  | .listen => g.listen.map Address.SocketAddress.text
  | .base => g.base

variable {g g' : Given} {key : Key} {value : String}

theorem text?_empty (key : Key) : text? {} key = none := by
  cases key <;> rfl

theorem has_eq_isSome (g : Given) (key : Key) : g.has key = (g.text? key).isSome := by
  cases key <;> simp [has, text?]

theorem take_of_put? (put : g.put? key value = some g') : g.take key value = .ok g' := by
  rw [take, put]

theorem exists_take_eq_error (put : g.put? key value = none) :
    ∃ stop, g.take key value = .error stop := by
  rw [take, put]
  dsimp only
  split
  · exact ⟨_, rfl⟩
  · split <;> exact ⟨_, rfl⟩

/-- A word is found by its name or is none of the names. -/
theorem find?_name_cases {α : Type} (all : List α) (name : α → String) (value : String) :
    (∃ a, (all.find? fun a => name a = value) = some a ∧ name a = value ∧ value ∈ all.map name) ∨
      (all.find? fun a => name a = value) = none ∧ value ∉ all.map name := by
  cases found : all.find? fun a => name a = value with
  | none =>
    refine .inr ⟨rfl, fun hmem => ?_⟩
    obtain ⟨a, ha, rfl⟩ := List.mem_map.mp hmem
    simpa using List.find?_eq_none.mp found a ha
  | some a =>
    obtain rfl : name a = value := by simpa using List.find?_some found
    exact .inl ⟨a, rfl, rfl, List.mem_map_of_mem (List.mem_of_find?_eq_some found)⟩

/-- An option is given a value exactly if it takes it, and the other options keep theirs. -/
theorem take_cases (known : key ∈ Scope.outer.keys) (g : Given) (value : String) :
    (key.Takes value ∧ ∃ g', g.take key value = .ok g' ∧
      ∀ other, g'.text? other = if other = key then some value else g.text? other) ∨
    ¬key.Takes value ∧ ∃ stop, g.take key value = .error stop := by
  cases key with
  | storage =>
    rcases find?_name_cases Storage.all Storage.name value with
      ⟨s, found, rfl, word⟩ | ⟨missing, other⟩
    · refine .inl ⟨.inr word, { g with storage := some s }, take_of_put? ?_, fun other => ?_⟩
      · rw [put?, found, Option.map_some]
      · cases other <;> rfl
    · exact .inr ⟨not_or.mpr ⟨by decide, other⟩, exists_take_eq_error (by rw [put?, missing]; rfl)⟩
  | logFormat =>
    rcases find?_name_cases Log.Format.all Log.Format.name value with
      ⟨f, found, rfl, word⟩ | ⟨missing, other⟩
    · refine .inl ⟨.inr word, { g with logFormat := some f }, take_of_put? ?_, fun other => ?_⟩
      · rw [put?, found, Option.map_some]
      · cases other <;> rfl
    · exact .inr ⟨not_or.mpr ⟨by decide, other⟩, exists_take_eq_error (by rw [put?, missing]; rfl)⟩
  | listen => exact absurd known (by decide)
  | base => exact absurd known (by decide)
  | _ =>
    refine .inl ⟨.inl rfl, _, rfl, fun other => ?_⟩
    cases other <;> rfl

/-- A value that an option is given is one that it takes. -/
theorem of_take (known : key ∈ Scope.outer.keys) (took : g.take key value = .ok g') :
    key.Takes value ∧
      ∀ other, g'.text? other = if other = key then some value else g.text? other := by
  rcases take_cases known g value with ⟨takes, _, took', text⟩ | ⟨-, stop, error⟩
  · obtain rfl := Except.ok.inj (took.symm.trans took')
    exact ⟨takes, text⟩
  · cases took.symm.trans error

theorem exists_take (known : key ∈ Scope.outer.keys) (takes : key.Takes value) (g : Given) :
    ∃ g', g.take key value = .ok g' := by
  rcases take_cases known g value with ⟨-, g', took, -⟩ | ⟨refused, -⟩
  · exact ⟨g', took⟩
  · exact absurd takes refused

/-! ## Values that are written -/

section

variable {options : List (Key × String)}

theorem text?_of_enter (known : ∀ option ∈ options, option.1 ∈ Scope.outer.keys)
    (entered : g.enter options = .ok g') :
    (options.map Prod.fst).Nodup ∧
    (∀ option ∈ options, g.text? option.1 = none ∧ option.1.Takes option.2) ∧
    ∀ key, g'.text? key = (options.lookup key).or (g.text? key) := by
  induction options generalizing g with
  | nil =>
    cases entered
    simp
  | cons option options ih =>
    obtain ⟨key, value⟩ := option
    rw [enter] at entered
    split at entered
    · cases entered
    next unset =>
    have unset : g.text? key = none := by simpa [has_eq_isSome] using unset
    obtain ⟨next, took, entered⟩ := bind_eq_ok_iff.mp entered
    obtain ⟨takes, text⟩ := of_take (known (key, value) List.mem_cons_self) took
    obtain ⟨once, free, later⟩ :=
      ih (fun option h => known option (List.mem_cons_of_mem _ h)) entered
    have fresh : ∀ option ∈ options, option.1 ≠ key := by
      rintro option h rfl
      have := (free option h).1
      simp [text] at this
    refine ⟨?_, ?_, fun other => ?_⟩
    · refine List.nodup_cons.mpr ⟨fun hmem => ?_, once⟩
      obtain ⟨option, h, same⟩ := List.mem_map.mp hmem
      exact fresh option h same
    · rintro option h
      rcases List.mem_cons.mp h with rfl | h
      · exact ⟨unset, takes⟩
      · refine ⟨?_, (free option h).2⟩
        have := (free option h).1
        rwa [text, if_neg (fresh option h)] at this
    · rw [later, text, List.lookup_cons]
      by_cases same : other = key
      · have only : options.lookup key = none :=
          List.lookup_eq_none_iff.mpr fun option h => by simpa using (fresh option h).symm
        simp [same, only]
      · simp [same, beq_eq_false_iff_ne.mpr same]

theorem exists_enter (known : ∀ option ∈ options, option.1 ∈ Scope.outer.keys)
    (once : (options.map Prod.fst).Nodup)
    (free : ∀ option ∈ options, g.text? option.1 = none ∧ option.1.Takes option.2) :
    ∃ g', g.enter options = .ok g' := by
  induction options generalizing g with
  | nil => exact ⟨g, rfl⟩
  | cons option options ih =>
    obtain ⟨key, value⟩ := option
    obtain ⟨fresh, once⟩ := List.nodup_cons.mp once
    obtain ⟨unset, takes⟩ := free (key, value) List.mem_cons_self
    have first := known (key, value) List.mem_cons_self
    obtain ⟨next, took⟩ := exists_take first takes g
    have text := (of_take first took).2
    obtain ⟨g', entered⟩ := ih (g := next) (fun option h => known option (List.mem_cons_of_mem _ h))
      once fun option h => by
        have other : option.1 ≠ key := by
          rintro rfl
          exact fresh (List.mem_map.mpr ⟨option, h, rfl⟩)
        rw [text, if_neg other]
        exact free option (List.mem_cons_of_mem _ h)
    refine ⟨g', ?_⟩
    have has : g.has key = false := by rw [has_eq_isSome, unset]; rfl
    rw [enter, has, if_neg Bool.false_ne_true]
    exact bind_eq_ok_iff.mpr ⟨next, took, entered⟩

end

/-! ## Values from the environment -/

section

variable {env : Environment} {keys : List Key}

theorem text?_of_fillFrom (known : ∀ key ∈ keys, key ∈ Scope.outer.keys)
    (filled : fillFrom env keys g = .ok g') :
    (∀ key ∈ keys, g.text? key = none → ∀ value, env.lookup key.variableName = some value →
      key.Takes value) ∧
    ∀ key, g'.text? key =
      (g.text? key).or (if key ∈ keys then env.lookup key.variableName else none) := by
  induction keys generalizing g with
  | nil =>
    cases filled
    simp
  | cons key keys ih =>
    have more : ∀ key ∈ keys, key ∈ Scope.outer.keys :=
      fun key h => known key (List.mem_cons_of_mem _ h)
    rw [fillFrom] at filled
    split at filled
    next skipped =>
      have nothing : g.text? key = none → env.lookup key.variableName = none := by
        intro unset
        simpa [has_eq_isSome, unset] using skipped
      obtain ⟨taken, text⟩ := ih more filled
      refine ⟨fun other h unset value there => ?_, fun other => ?_⟩
      · rcases List.mem_cons.mp h with rfl | h
        · rw [nothing unset] at there
          cases there
        · exact taken other h unset value there
      · rw [text]
        by_cases same : other = key
        · subst same
          cases set : g.text? other with
          | none => simp [nothing set]
          | some value => rfl
        · simp [same]
    next value found =>
      obtain ⟨unset, there⟩ : g.text? key = none ∧ env.lookup key.variableName = some value := by
        simpa [has_eq_isSome] using found
      obtain ⟨next, took, filled⟩ := bind_eq_ok_iff.mp filled
      obtain ⟨takes, text⟩ := of_take (known key List.mem_cons_self) took
      obtain ⟨taken, later⟩ := ih more filled
      refine ⟨fun other h unset' value' there' => ?_, fun other => ?_⟩
      · by_cases same : other = key
        · subst same
          obtain rfl := Option.some.inj (there.symm.trans there')
          exact takes
        · have h := (List.mem_cons.mp h).resolve_left same
          exact taken other h (by rw [text, if_neg same, unset']) value' there'
      · rw [later, text]
        by_cases same : other = key
        · simp [same, unset, there]
        · simp [same]

theorem exists_fillFrom (known : ∀ key ∈ keys, key ∈ Scope.outer.keys)
    (taken : ∀ key ∈ keys, g.text? key = none → ∀ value, env.lookup key.variableName = some value →
      key.Takes value) :
    ∃ g', fillFrom env keys g = .ok g' := by
  induction keys generalizing g with
  | nil => exact ⟨g, rfl⟩
  | cons key keys ih =>
    have more : ∀ key ∈ keys, key ∈ Scope.outer.keys :=
      fun key h => known key (List.mem_cons_of_mem _ h)
    rw [fillFrom]
    split
    next => exact ih more fun other h => taken other (List.mem_cons_of_mem _ h)
    next value found =>
      obtain ⟨unset, there⟩ : g.text? key = none ∧ env.lookup key.variableName = some value := by
        simpa [has_eq_isSome] using found
      have first := known key List.mem_cons_self
      obtain ⟨next, took⟩ := exists_take first (taken key List.mem_cons_self unset value there) g
      have text := (of_take first took).2
      obtain ⟨g', filled⟩ := ih (g := next) more fun other h unset' => by
        rw [text] at unset'
        split at unset'
        · cases unset'
        · exact taken other (List.mem_cons_of_mem _ h) unset'
      exact ⟨g', bind_eq_ok_iff.mpr ⟨next, took, filled⟩⟩

end

end Given

/-! ## Settings -/

/-- The value that an option is given: the one that is written, else that of its variable. -/
def givenValue? (env : Environment) (options : List (Key × String)) (key : Key) : Option String :=
  (options.lookup key).or (env.lookup key.variableName)

namespace Settings

/-- The setting for an option in front of the command, as it is written. -/
def text? (s : Settings) : Key → Option String
  | .storage => some s.storage.name
  | .mysqlDsn => s.mysqlDsn
  | .sqliteUrl => s.sqliteUrl
  | .logFormat => some s.logFormat.name
  | .logLevel => some s.logLevel
  | .collector => s.collector
  | .listen | .base => none

/-- The storage has the address that it needs. -/
structure HasAddress (s : Settings) : Prop where
  mysql : s.storage = .mysql → ∃ dsn, s.mysqlDsn = some dsn
  sqlite : s.storage = .sqlite → ∃ url, s.sqliteUrl = some url

theorem name_inj {s t : Storage} (h : s.name = t.name) : s = t := by
  revert h
  cases s <;> cases t <;> decide

theorem formatName_inj {f g : Log.Format} (h : f.name = g.name) : f = g := by
  revert h
  cases f <;> cases g <;> decide

/-- Settings are known by their texts and the command. -/
theorem eq_of_text? {s t : Settings} (command : s.command = t.command)
    (texts : ∀ key ∈ Scope.outer.keys, s.text? key = t.text? key) : s = t := by
  have storage := name_inj (Option.some.inj (texts .storage (by decide)))
  have format := formatName_inj (Option.some.inj (texts .logFormat (by decide)))
  have level := Option.some.inj (texts .logLevel (by decide))
  have dsn := texts .mysqlDsn (by decide)
  have url := texts .sqliteUrl (by decide)
  have collector := texts .collector (by decide)
  obtain ⟨_, _, _, _, _, _, _⟩ := s
  obtain ⟨_, _, _, _, _, _, _⟩ := t
  cases command; cases storage; cases format; cases level; cases dsn; cases url; cases collector
  rfl

end Settings

theorem Given.text?_settings (g : Given) (command : Command) {key : Key}
    (known : key ∈ Scope.outer.keys) :
    (g.settings command).text? key = (g.text? key).or key.default? := by
  cases key with
  | storage => cases h : g.storage <;> simp [settings, Settings.text?, text?, h, Key.default?]
  | logFormat => cases h : g.logFormat <;> simp [settings, Settings.text?, text?, h, Key.default?]
  | logLevel => cases h : g.logLevel <;> simp [settings, Settings.text?, text?, h, Key.default?]
  | listen => exact absurd known (by decide)
  | base => exact absurd known (by decide)
  | _ => simp [settings, Settings.text?, text?, Key.default?]

theorem Given.lacksAddress_eq_false_iff {g : Given} {command : Command} :
    g.lacksAddress = false ↔ (g.settings command).HasAddress := by
  have parts : g.lacksAddress = false ↔
      ((g.settings command).storage = .mysql → g.mysqlDsn.isSome = true) ∧
        ((g.settings command).storage = .sqlite → g.sqliteUrl.isSome = true) := by
    rcases h : g.storage with _ | _ | _ | _ <;> simp [lacksAddress, settings, defaultStorage, h]
  simp only [Option.isSome_iff_exists] at parts
  exact ⟨fun h => ⟨(parts.mp h).1, (parts.mp h).2⟩, fun h => parts.mpr ⟨h.mysql, h.sqlite⟩⟩

/-! ## Whole command lines -/

theorem WritesOptions.known {keys : List Key} {options : List (Key × String)} {words : List String}
    (h : WritesOptions keys options words) : ∀ option ∈ options, option.1 ∈ keys := by
  induction h with
  | nil => simp
  | joined known _ _ ih => exact List.forall_mem_cons.mpr ⟨known, ih⟩
  | apart known _ _ ih => exact List.forall_mem_cons.mpr ⟨known, ih⟩

/-- Settings come of the options in front of a command, of the environment and of what stands behind
    the command. -/
structure Settings.ComesOf (s : Settings) (env : Environment) (options : List (Key × String))
    (name : CommandName) (rest : List String) : Prop where
  once : (options.map Prod.fst).Nodup
  taken : ∀ key ∈ Scope.outer.keys, ∀ value, givenValue? env options key = some value →
    key.Takes value
  text?_eq : ∀ key ∈ Scope.outer.keys, s.text? key = (givenValue? env options key).or key.default?
  command : readCommand env name rest = .ok s.command
  hasAddress : s.HasAddress

variable {env : Environment} {arguments : List String} {settings : Settings}

/-- The values that are written and those of the variables are what the options have. -/
theorem text?_of_given {options : List (Key × String)} {g g' : Given}
    (known : ∀ option ∈ options, option.1 ∈ Scope.outer.keys)
    (entered : Given.enter {} options = .ok g)
    (filled : g.fillFrom env Scope.outer.keys = .ok g') {key : Key} (own : key ∈ Scope.outer.keys) :
    g'.text? key = givenValue? env options key := by
  rw [(Given.text?_of_fillFrom (fun _ h => h) filled).2, if_pos own,
    (Given.text?_of_enter known entered).2.2, Given.text?_empty, Option.or_none, givenValue?]

theorem Settings.ComesOf.of_parse (read : parse env arguments = .ok settings) :
    ∃ options words name rest, WritesOptions Scope.outer.keys options words ∧
      arguments = words ++ name.name :: rest ∧ settings.ComesOf env options name rest := by
  obtain ⟨⟨unchecked, behind⟩, scope, read⟩ := bind_eq_ok_iff.mp read
  cases behind with
  | none =>
    obtain ⟨_, nothing, read⟩ := bind_eq_ok_iff.mp read
    obtain ⟨reading, settles, read⟩ := bind_eq_ok_iff.mp read
    obtain ⟨given, filled, read⟩ := bind_eq_ok_iff.mp read
    cases nothing
    cases read
  | some behind =>
    obtain ⟨name, rest⟩ := behind
    obtain ⟨_, found, read⟩ := bind_eq_ok_iff.mp read
    obtain ⟨reading, settles, read⟩ := bind_eq_ok_iff.mp read
    obtain ⟨given, filled, read⟩ := bind_eq_ok_iff.mp read
    cases own : readCommand env name rest with
    | error stop =>
      rw [own] at found
      cases found
    | ok command =>
      rw [own] at found
      cases found
      dsimp only at read
      split at read
      · cases read
      next addressed =>
      cases read
      obtain ⟨options, words, writes, same, entered⟩ :=
        readScope_options_iff.mp ⟨_, _, scope, settles, rfl⟩
      obtain ⟨once, free, texts⟩ := Given.text?_of_enter writes.known entered
      have text {key : Key} (known : key ∈ Scope.outer.keys) :=
        text?_of_given writes.known entered filled known
      refine ⟨options, words, name, rest, writes, same, once, ?_, ?_, own, ?_⟩
      · intro key known value given
        cases written : options.lookup key with
        | some text =>
          obtain rfl : text = value := by simpa [givenValue?, written] using given
          exact (free _ ((lookup_eq_some_iff_mem once).mp written)).2
        | none =>
          have unset : reading.given.text? key = none := by
            rw [texts, written, Given.text?_empty]
            rfl
          exact (Given.text?_of_fillFrom (fun _ h => h) filled).1 key known unset value
            (by simpa [givenValue?, written] using given)
      · intro key known
        rw [given.text?_settings command known, text known]
      · exact Given.lacksAddress_eq_false_iff.mp (by simpa using addressed)

/-- **A command line is carried out exactly if settings come of it.** -/
theorem parse_eq_ok_iff :
    parse env arguments = .ok settings ↔ ∃ options words name rest,
      WritesOptions Scope.outer.keys options words ∧ arguments = words ++ name.name :: rest ∧
      settings.ComesOf env options name rest := by
  refine ⟨Settings.ComesOf.of_parse, ?_⟩
  rintro ⟨options, words, name, rest, writes, same, comes⟩
  have free : ∀ option ∈ options, Given.text? {} option.1 = none ∧ option.1.Takes option.2 := by
    intro option h
    have written := (lookup_eq_some_iff_mem comes.once).mpr h
    exact ⟨Given.text?_empty _, comes.taken _ (writes.known _ h) _ (by simp [givenValue?, written])⟩
  obtain ⟨g, entered⟩ := Given.exists_enter writes.known comes.once free
  obtain ⟨unchecked, reading, scope, settles, rfl⟩ :=
    readScope_options_iff.mpr ⟨options, words, writes, same, entered⟩
  have texts := (Given.text?_of_enter writes.known entered).2.2
  obtain ⟨given, filled⟩ : ∃ given, reading.given.fillFrom env Scope.outer.keys = .ok given := by
    refine Given.exists_fillFrom (fun _ h => h) fun key known unset value there => ?_
    rw [texts, Given.text?_empty, Option.or_none] at unset
    exact comes.taken key known value (by rw [givenValue?, unset, there]; rfl)
  have whole : given.settings settings.command = settings := by
    refine Settings.eq_of_text? rfl fun key known => ?_
    rw [given.text?_settings _ known, text?_of_given writes.known entered filled known,
      comes.text?_eq key known]
  have addressed : given.lacksAddress = false :=
    Given.lacksAddress_eq_false_iff.mpr (whole.symm ▸ comes.hasAddress)
  simp only [parse, scope, comes.command, settles, filled, addressed, bind, Except.bind, Except.map,
    pure, Except.pure, Bool.false_eq_true, if_false, whole]

/-! ## Opening the store -/

/-- Carrying a command out never fails for want of an address. -/
theorem carryOut_ne_noAddress (command : Command) (backing : Backing) (storage : Storage) :
    ((carryOut command).run Backing.store backing).value ≠ .error (.noAddress storage) := by
  cases command with
  | serve listen base => simp [carryOut]
  | make url =>
    simp only [carryOut, Program.bind_eq, Program.run_bind]
    cases ((Desk.make url).run Backing.store backing).value <;> simp
  | resolve text =>
    simp only [carryOut]
    cases LinkId.parse text with
    | error fault => simp
    | ok id =>
      simp only [Program.bind_eq, Program.run_bind]
      cases ((Desk.resolve id).run Backing.store backing).value <;> simp

theorem Settings.HasAddress.openStore_ne (h : settings.HasAddress) (disk : Disk)
    (storage : Storage) : openStore settings disk ≠ .error (.noAddress storage) := by
  intro failed
  unfold openStore at failed
  split at failed
  next => cases failed
  next used =>
    obtain ⟨dsn, there⟩ := h.mysql used
    simp only [there] at failed
    split at failed <;> cases failed
  next used =>
    obtain ⟨url, there⟩ := h.sqlite used
    simp only [there] at failed
    split at failed <;> cases failed

/-- No run fails for want of an address. -/
theorem Settings.HasAddress.carryOutOn_ne (h : settings.HasAddress) (disk : Disk)
    (storage : Storage) : (carryOutOn settings disk).result ≠ .error (.noAddress storage) := by
  unfold carryOutOn
  cases opened : openStore settings disk with
  | error failure =>
    rintro ⟨⟩
    exact h.openStore_ne disk storage opened
  | ok store => exact carryOut_ne_noAddress settings.command store.backing storage

/-! ## Leaving an address out -/

/-- An address of a storage other than the one that is used. -/
inductive Settings.Spares (s : Settings) : Key → Prop
  | mysqlDsn (unused : s.storage ≠ .mysql) : s.Spares .mysqlDsn
  | sqliteUrl (unused : s.storage ≠ .sqlite) : s.Spares .sqliteUrl

def Settings.without (s : Settings) : Key → Settings
  | .mysqlDsn => { s with mysqlDsn := none }
  | .sqliteUrl => { s with sqliteUrl := none }
  | _ => s

def optionsWithout (key : Key) (options : List (Key × String)) : List (Key × String) :=
  options.filter fun option => option.1 ≠ key

def Environment.without (env : Environment) (key : Key) : Environment :=
  env.filter fun entry => entry.1 ≠ key.variableName

/-- Pairs that are taken out are not found, and the others are found as before. -/
theorem lookup_filter_ne {α β : Type} [DecidableEq α] (pairs : List (α × β)) (a b : α) :
    (pairs.filter fun pair => pair.1 ≠ a).lookup b = if b = a then none else pairs.lookup b := by
  induction pairs with
  | nil => simp
  | cons pair pairs ih =>
    by_cases out : pair.1 = a
    · rw [List.filter_cons_of_neg (by simpa using out), ih, List.lookup_cons, out]
      split
      · rfl
      next same => rw [beq_eq_false_iff_ne.mpr same]
    · rw [List.filter_cons_of_pos (by simpa using out), List.lookup_cons, List.lookup_cons, ih]
      by_cases first : b = pair.1
      · simp [first, out]
      · simp [beq_eq_false_iff_ne.mpr first]

theorem variableName_inj {key other : Key} (h : key.variableName = other.variableName) :
    key = other := by
  revert h
  cases key <;> cases other <;> decide

theorem lookup_without (env : Environment) (key other : Key) :
    (env.without key).lookup other.variableName =
      if other = key then none else env.lookup other.variableName := by
  rw [Environment.without, lookup_filter_ne]
  by_cases same : other = key
  · rw [if_pos same, if_pos (congrArg _ same)]
  · rw [if_neg same, if_neg (mt variableName_inj same)]

theorem givenValue?_without (env : Environment) (options : List (Key × String)) (key other : Key) :
    givenValue? (env.without key) (optionsWithout key options) other =
      if other = key then none else givenValue? env options other := by
  rw [givenValue?, optionsWithout, lookup_filter_ne, lookup_without, givenValue?]
  split <;> rfl

/-- What options are given depends on their own variables only. -/
theorem fillFrom_congr {env env' : Environment} {keys : List Key}
    (same : ∀ key ∈ keys, env.lookup key.variableName = env'.lookup key.variableName) (g : Given) :
    Given.fillFrom env keys g = Given.fillFrom env' keys g := by
  induction keys generalizing g with
  | nil => rfl
  | cons key keys ih =>
    have more := ih fun other h => same other (List.mem_cons_of_mem _ h)
    simp only [Given.fillFrom, same key List.mem_cons_self, more]

/-- What stands behind a command is read without the variables of the options in front of it. -/
theorem readCommand_without (env : Environment) {key : Key} (own : key ∈ Scope.outer.keys)
    (name : CommandName) (rest : List String) :
    readCommand (env.without key) name rest = readCommand env name rest := by
  have same : ∀ other ∈ (Scope.command name).keys,
      (env.without key).lookup other.variableName = env.lookup other.variableName := by
    intro other h
    have apart : other ≠ key := by
      rintro rfl
      revert h own
      cases name <;> cases other <;> decide
    rw [lookup_without, if_neg apart]
  simp only [readCommand, fillFrom_congr same]

namespace Settings.Spares

variable {key : Key}

theorem known (h : settings.Spares key) : key ∈ Scope.outer.keys := by
  cases h <;> decide

theorem default?_eq (h : settings.Spares key) : key.default? = none := by
  cases h <;> rfl

theorem command_without (h : settings.Spares key) :
    (settings.without key).command = settings.command := by
  cases h <;> rfl

/-- The settings without an address are those without the option for it. -/
theorem text?_without (h : settings.Spares key) (other : Key) :
    (settings.without key).text? other = if other = key then none else settings.text? other := by
  cases h <;> cases other <;> rfl

theorem hasAddress (h : settings.Spares key) (has : settings.HasAddress) :
    (settings.without key).HasAddress := by
  cases h with
  | mysqlDsn unused => exact ⟨fun used => absurd used unused, has.sqlite⟩
  | sqliteUrl unused => exact ⟨has.mysql, fun used => absurd used unused⟩

/-- What is not used is not looked at. -/
theorem openStore_eq (h : settings.Spares key) (disk : Disk) :
    openStore (settings.without key) disk = openStore settings disk := by
  cases h with
  | mysqlDsn unused =>
    cases used : settings.storage with
    | mysql => exact absurd used unused
    | _ => simp [openStore, without, used]
  | sqliteUrl unused =>
    cases used : settings.storage with
    | sqlite => exact absurd used unused
    | _ => simp [openStore, without, used]

/-- An address that is not used may be left out of the command line and of the environment. -/
theorem comesOf {options : List (Key × String)} {name : CommandName} {rest : List String}
    (h : settings.Spares key) (comes : settings.ComesOf env options name rest) :
    (settings.without key).ComesOf (env.without key) (optionsWithout key options) name rest where
  once := comes.once.sublist (List.filter_sublist.map _)
  taken other own value given := by
    rw [givenValue?_without] at given
    split at given
    · cases given
    · exact comes.taken other own value given
  text?_eq other own := by
    rw [h.text?_without, givenValue?_without]
    by_cases same : other = key
    · rw [if_pos same, if_pos same, same, h.default?_eq, Option.or_none]
    · rw [if_neg same, if_neg same, comes.text?_eq other own]
  command := by rw [readCommand_without env h.known, comes.command, h.command_without]
  hasAddress := h.hasAddress comes.hasAddress

end Settings.Spares

/-! ## Addresses that are needed -/

/-- **Settings have the address that their storage needs.** A command line is carried out exactly if
    settings come of it, which have that address; so neither opening the store nor a whole run fails
    for want of one. An address that is not needed makes no difference to the store, and may be left
    out of the command line and of the environment. -/
theorem parsed_settings_have_their_address (env : Environment) (arguments : List String)
    (settings : Settings) :
    (parse env arguments = .ok settings ↔ ∃ options words name rest,
      WritesOptions Scope.outer.keys options words ∧ arguments = words ++ name.name :: rest ∧
      settings.ComesOf env options name rest) ∧
    (parse env arguments = .ok settings →
      settings.HasAddress ∧ ∀ disk storage,
        openStore settings disk ≠ .error (.noAddress storage) ∧
        (carryOutOn settings disk).result ≠ .error (.noAddress storage)) ∧
    ∀ key, settings.Spares key →
      (∀ disk, openStore (settings.without key) disk = openStore settings disk) ∧
      ∀ options words name rest, settings.ComesOf env options name rest →
        WritesOptions Scope.outer.keys (optionsWithout key options) words →
        parse (env.without key) (words ++ name.name :: rest) = .ok (settings.without key) := by
  refine ⟨parse_eq_ok_iff, fun read => ?_, fun key spares => ⟨spares.openStore_eq, ?_⟩⟩
  · obtain ⟨options, words, name, rest, -, -, comes⟩ := parse_eq_ok_iff.mp read
    exact ⟨comes.hasAddress, fun disk storage =>
      ⟨comes.hasAddress.openStore_ne disk storage, comes.hasAddress.carryOutOn_ne disk storage⟩⟩
  · intro options words name rest comes writes
    exact parse_eq_ok_iff.mpr ⟨_, words, name, rest, writes, rfl, spares.comesOf comes⟩

/-- The storage of the command line wins against that of the environment, and needs the address that
    stands there; the other one is left out. -/
theorem parsed_settings_have_their_address_of_variables :
    let env :=
      [(Key.storage.variableName, "sqlite"), (Key.mysqlDsn.variableName, "mysql://db/links")]
    let settings : Settings :=
      ⟨.mysql, some "mysql://db/links", some "sqlite://a.db", .text, "info", none, .resolve "7"⟩
    parse env ["--sqlite-url", "sqlite://a.db", "--storage=mysql", "resolve", "7"] = .ok settings ∧
    settings.HasAddress ∧ openStore settings ⟨[], []⟩ ≠ .error (.noAddress .mysql) ∧
    parse env ["--storage=mysql", "resolve", "7"] = .ok { settings with sqliteUrl := none } := by
  intro env settings
  have comes : settings.ComesOf env [(.sqliteUrl, "sqlite://a.db"), (.storage, "mysql")] .resolve
      ["7"] := by
    refine ⟨by decide, ?_, by decide, by rfl, ⟨fun _ => ⟨_, rfl⟩, fun _ => ⟨_, rfl⟩⟩⟩
    intro key own value given
    cases key with
    | storage =>
      obtain rfl : "mysql" = value := Option.some.inj given
      exact .inr (by decide)
    | logFormat => cases given
    | _ => exact .inl rfl
  obtain ⟨parses, found, spare⟩ := parsed_settings_have_their_address env
    ["--sqlite-url", "sqlite://a.db", "--storage=mysql", "resolve", "7"] settings
  have read := parses.mpr ⟨_, _, _, _,
    .apart (by decide) (.inl (by decide)) (.joined (by decide) _ .nil), rfl, comes⟩
  exact ⟨read, (found read).1, ((found read).2 _ _).1,
    (spare _ (.sqliteUrl (by decide))).2 _ _ _ _ comes (.joined (by decide) _ .nil)⟩

end LinkLedger.CommandLine
