import Mathlib.Data.List.Perm.Basic
import LinkLedger.Proofs.Store.Healthy

/-!
# Insertions step by step

The indexes in memory are written in several steps, and tasks take turns. What a task has done to
the indexes can be read off how far it has come: the url that it has found vacant (`Task.claim?`),
the part that it has locked (`Task.part?`), the number that it has taken (`Task.number?`) and the
entries that it has made (`Task.entry?`, `Task.filed?`).

`Sound partOf tasks m` says that the indexes are made of just these, that no two tasks have claimed
one url, that the numbers that were taken are the first ones, and that what was answered is still
so. It does not matter in which order the tasks stand, so whoever has a turn may be taken to stand
in front. A step does one of seven things or nothing (`Task.step_cases`), and **each of them keeps
the indexes sound** (`Sound.step`).
-/

set_option autoImplicit false

namespace LinkLedger

def Call.isInsertion : Call → Bool
  | .insert _ => true
  | _ => false

namespace Indexes

theorem mem_of_get?_eq_some {m : Indexes} {id : LinkId} {link : Link}
    (h : m.get? id = some link) : link.id = id ∧ (id, link.url) ∈ m.byId := by
  obtain ⟨url, found, rfl⟩ := Option.map_eq_some_iff.mp h
  obtain ⟨front, back, entries, -⟩ := List.lookup_eq_some_iff.mp found
  exact ⟨rfl, entries ▸ by simp⟩

/-- Entries have been added in front, if anything has changed in the indexes. -/
structure Grows (m m' : Indexes) : Prop where
  byUrl : m.byUrl <:+ m'.byUrl
  byId : m.byId <:+ m'.byId

theorem Grows.refl (m : Indexes) : m.Grows m := ⟨List.suffix_rfl, List.suffix_rfl⟩

theorem Grows.trans {m m' m'' : Indexes} (h : m.Grows m') (h' : m'.Grows m'') : m.Grows m'' :=
  ⟨h.byUrl.trans h'.byUrl, h.byId.trans h'.byId⟩

end Indexes

namespace Task

/-! ## What can be told from a task -/

def call : Task → Call
  | insert url _ => .insert url
  | find url _ => .findByUrl url
  | get id _ => .get id

def isAnswered : Task → Bool
  | insert _ (.finished _) | find _ (some _) | get _ (some _) => true
  | _ => false

/-- The url that an insertion has found vacant, be it still on its way or done. -/
def claim? : Task → Option String
  | insert url .holding | insert url (.numbered _) | insert url (.written _)
  | insert url (.finished (.ok _)) => some url
  | _ => none

/-- The part that a task has locked. -/
def part? (partOf : String → Nat) : Task → Option Nat
  | insert url .holding | insert url (.numbered _) | insert url (.written _) => some (partOf url)
  | _ => none

/-- The number that an insertion has taken. -/
def number? : Task → Option LinkId
  | insert _ (.numbered id) | insert _ (.written id) | insert _ (.finished (.ok id)) => some id
  | _ => none

/-- The entry that an insertion has made in the index by id. -/
def entry? : Task → Option (LinkId × String)
  | insert url (.written id) | insert url (.finished (.ok id)) => some (id, url)
  | _ => none

/-- The entry that an insertion has made in the index by url. -/
def filed? : Task → Option (String × LinkId)
  | insert url (.finished (.ok id)) => some (url, id)
  | _ => none

variable {t : Task} {url : String} {id : LinkId}

theorem filed?_eq_some_iff : t.filed? = some (url, id) ↔ t = insert url (.finished (.ok id)) := by
  constructor
  · intro h
    unfold filed? at h
    split at h
    · cases h
      rfl
    · cases h
  · rintro rfl
    rfl

theorem entry?_eq_some_iff : t.entry? = some (id, url) ↔
    t = insert url (.written id) ∨ t = insert url (.finished (.ok id)) := by
  constructor
  · intro h
    unfold entry? at h
    split at h
    · cases h
      exact .inl rfl
    · cases h
      exact .inr rfl
    · cases h
  · rintro (rfl | rfl) <;> rfl

theorem number?_of_entry? (h : t.entry? = some (id, url)) : t.number? = some id := by
  rcases entry?_eq_some_iff.mp h with rfl | rfl <;> rfl

/-- What was claimed is still locked, or it is filed. -/
theorem of_claim? (partOf : String → Nat) (h : t.claim? = some url) :
    t.part? partOf = some (partOf url) ∨ ∃ id, t.filed? = some (url, id) := by
  unfold claim? at h
  split at h <;> cases h
  · exact .inl rfl
  · exact .inl rfl
  · exact .inl rfl
  · exact .inr ⟨_, rfl⟩

theorem isBusy_of_part? {partOf : String → Nat} {part : Nat} (h : t.part? partOf = some part) :
    t.isBusy = true := by
  unfold part? at h
  split at h <;> first | rfl | cases h

/-- A task that is not in the middle of an insertion has made both entries or taken no number. -/
theorem of_not_isBusy (h : t.isBusy = false) :
    t.filed? = t.entry?.map Prod.swap ∧ t.number? = t.entry?.map Prod.fst := by
  cases t with
  | insert url progress =>
    cases progress with
    | waiting => exact ⟨rfl, rfl⟩
    | holding | numbered id | written id => cases h
    | finished outcome => cases outcome <;> exact ⟨rfl, rfl⟩
  | find url answer | get id answer => exact ⟨rfl, rfl⟩

theorem isInsertion_of_number? (h : t.number? = some id) : t.call.isInsertion = true := by
  cases t with
  | insert url progress => rfl
  | find url answer | get id answer => cases h

/-- What a task has answered is still so. -/
def Stands (m : Indexes) : Task → Prop
  | insert url (.finished (.error failure)) =>
    failure = ⟨.conflict, url⟩ ∧ ∃ id, (url, id) ∈ m.byUrl
  | find url (some (some id)) => (url, id) ∈ m.byUrl
  | get id (some (some link)) => link.id = id ∧ (id, link.url) ∈ m.byId
  | _ => True

theorem Stands.mono {m m' : Indexes} (h : t.Stands m) (grown : m.Grows m') : t.Stands m' := by
  unfold Stands at h ⊢
  split at h
  · exact ⟨h.1, h.2.imp fun id there => grown.byUrl.subset there⟩
  · exact grown.byUrl.subset h
  · exact ⟨h.1, grown.byId.subset h.2⟩
  · trivial

/-! ## What a step does -/

/-- What a step of a task does if it does anything: the task before, the task after, and the indexes
    after. -/
inductive Steps (partOf : String → Nat) (m : Indexes) : Task → Task → Indexes → Prop
  | lose {url : String} {id : LinkId} (free : partOf url ∉ m.locked)
      (there : m.idOf? url = some id) :
    Steps partOf m (insert url .waiting) (insert url (.finished (.error ⟨.conflict, url⟩))) m
  | claim {url : String} (free : partOf url ∉ m.locked) (vacant : m.idOf? url = none) :
    Steps partOf m (insert url .waiting) (insert url .holding) (m.lock (partOf url))
  | number {url : String} :
    Steps partOf m (insert url .holding) (insert url (.numbered m.next))
      { m with next := ⟨m.next.word + 1⟩ }
  | enter {url : String} {id : LinkId} :
    Steps partOf m (insert url (.numbered id)) (insert url (.written id))
      { m with byId := (id, url) :: m.byId }
  | file {url : String} {id : LinkId} :
    Steps partOf m (insert url (.written id)) (insert url (.finished (.ok id)))
      ({ m with byUrl := (url, id) :: m.byUrl }.unlock (partOf url))
  | find {url : String} : Steps partOf m (find url none) (find url (some (m.idOf? url))) m
  | get {id : LinkId} : Steps partOf m (get id none) (get id (some (m.get? id))) m

/-- A step does one of these things or nothing. A task that does nothing is not in the middle of an
    insertion, and if it has not answered, then something is locked. -/
theorem step_cases (partOf : String → Nat) (m : Indexes) (t : Task) :
    (t.step partOf m = (t, m) ∧ t.isBusy = false ∧ (t.isAnswered = true ∨ m.locked ≠ [])) ∨
      ∃ t' m', t.step partOf m = (t', m') ∧ Steps partOf m t t' m' := by
  cases t with
  | insert url progress =>
    cases progress with
    | waiting =>
      by_cases locked : partOf url ∈ m.locked
      · exact .inl ⟨by simp [step, stepInsert, locked], rfl, .inr (List.ne_nil_of_mem locked)⟩
      · right
        cases found : m.idOf? url with
        | some id => exact ⟨_, _, by simp [step, stepInsert, locked, found], .lose locked found⟩
        | none => exact ⟨_, _, by simp [step, stepInsert, locked, found], .claim locked found⟩
    | holding => exact .inr ⟨_, _, rfl, .number⟩
    | numbered id => exact .inr ⟨_, _, rfl, .enter⟩
    | written id => exact .inr ⟨_, _, rfl, .file⟩
    | finished outcome => exact .inl ⟨rfl, rfl, .inl rfl⟩
  | find url answer =>
    cases answer with
    | none =>
      by_cases locked : partOf url ∈ m.locked
      · exact .inl ⟨by simp [step, locked], rfl, .inr (List.ne_nil_of_mem locked)⟩
      · exact .inr ⟨_, _, by simp [step, locked], .find⟩
    | some answer => exact .inl ⟨rfl, rfl, .inl rfl⟩
  | get id answer =>
    cases answer with
    | none => exact .inr ⟨_, _, rfl, .get⟩
    | some answer => exact .inl ⟨rfl, rfl, .inl rfl⟩

def stepsLeft : Task → Nat
  | insert _ .waiting => 4
  | insert _ .holding => 3
  | insert _ (.numbered _) => 2
  | insert _ (.written _) | find _ none | get _ none => 1
  | insert _ (.finished _) | find _ (some _) | get _ (some _) => 0

namespace Steps

variable {partOf : String → Nat} {m m' : Indexes} {t t' : Task}

theorem call_eq (h : Steps partOf m t t' m') : t'.call = t.call := by cases h <;> rfl

theorem grows (h : Steps partOf m t t' m') : m.Grows m' := by
  cases h with
  | enter => exact ⟨List.suffix_rfl, List.suffix_cons _ _⟩
  | file => exact ⟨List.suffix_cons _ _, List.suffix_rfl⟩
  | lose | claim | number | find | get => exact ⟨List.suffix_rfl, List.suffix_rfl⟩

theorem stepsLeft_lt (h : Steps partOf m t t' m') : t'.stepsLeft < t.stepsLeft := by
  cases h <;> simp [stepsLeft]

end Steps

theorem call_step (partOf : String → Nat) (m : Indexes) (t : Task) :
    (t.step partOf m).1.call = t.call := by
  rcases step_cases partOf m t with ⟨rests, -, -⟩ | ⟨t', m', after, steps⟩
  · rw [rests]
  · rw [after]
    exact steps.call_eq

theorem step_of_answered {t : Task} (answered : t.isAnswered = true) (partOf : String → Nat)
    (m : Indexes) : t.step partOf m = (t, m) := by
  rcases step_cases partOf m t with ⟨rests, -, -⟩ | ⟨t', m', -, steps⟩
  · exact rests
  · cases steps <;> cases answered

/-- What a look-up is answered by some indexes. -/
def read (m : Indexes) : Task → Task
  | find url none => find url (some (m.idOf? url))
  | get id none => get id (some (m.get? id))
  | task => task

theorem isAnswered_read {t : Task} (lookUp : t.call.isInsertion = false) (m : Indexes) :
    (t.read m).isAnswered = true := by
  cases t with
  | insert url progress => cases lookUp
  | find url answer | get id answer => cases answer <;> rfl

theorem step_of_lookUp {t : Task} (lookUp : t.call.isInsertion = false) (partOf : String → Nat)
    (m : Indexes) : (t.step partOf m).1 = t ∨ (t.step partOf m).1 = t.read m := by
  rcases step_cases partOf m t with ⟨rests, -, -⟩ | ⟨t', m', after, steps⟩
  · exact .inl (congrArg Prod.fst rests)
  · rw [after]
    cases steps with
    | lose | claim | number | enter | file => cases lookUp
    | find | get => exact .inr rfl

theorem stepsLeft_le (t : Task) : t.stepsLeft ≤ 4 := by
  unfold stepsLeft
  split <;> decide

end Task

/-! ## Indexes made by tasks -/

/-- No more numbers are taken than there are insertions. -/
theorem Task.length_numbers_le (tasks : List Task) : (tasks.filterMap Task.number?).length ≤
    (tasks.map Task.call).countP Call.isInsertion := by
  rw [List.length_filterMap_eq_countP, List.countP_map]
  refine List.countP_mono_left fun t _ taken => ?_
  obtain ⟨id, number⟩ := Option.isSome_iff_exists.mp taken
  exact Task.isInsertion_of_number? number

/-- What nobody has in common with another tells which one it is. -/
theorem eq_of_nodup_filterMap {α β : Type} {l : List α} {f : α → Option β}
    (h : (l.filterMap f).Nodup) {i j : Nat} {a a' : α} {b : β} (ha : l[i]? = some a)
    (ha' : l[j]? = some a') (hb : f a = some b) (hb' : f a' = some b) : i = j := by
  rw [List.Nodup, List.pairwise_filterMap, List.pairwise_iff_getElem] at h
  obtain ⟨hi, rfl⟩ := List.getElem?_eq_some_iff.mp ha
  obtain ⟨hj, rfl⟩ := List.getElem?_eq_some_iff.mp ha'
  rcases Nat.lt_trichotomy i j with lt | rfl | gt
  · exact absurd rfl (h i j hi hj lt b hb b hb')
  · rfl
  · exact absurd rfl (h j i hj hi gt b hb' b hb)

/-- What is told of fewer tasks is told without repetition too. -/
theorem nodup_filterMap_of_imp {α β : Type} {l : List α} {f g : α → Option β}
    (imp : ∀ a b, g a = some b → f a = some b) (h : (l.filterMap f).Nodup) :
    (l.filterMap g).Nodup := by
  rw [List.Nodup, List.pairwise_filterMap] at h ⊢
  exact h.imp fun apart b hb b' hb' => apart b (imp _ b hb) b' (imp _ b' hb')

/-- The indexes are made of what the tasks have done. -/
structure Sound (partOf : String → Nat) (tasks : List Task) (m : Indexes) : Prop where
  claims : (tasks.filterMap Task.claim?).Nodup
  locks : m.locked.Perm (tasks.filterMap (Task.part? partOf))
  next : m.next = .ofNat ((tasks.filterMap Task.number?).length + 1)
  numbers : (tasks.filterMap Task.number?).Perm
    ((List.range (tasks.filterMap Task.number?).length).map fun i => .ofNat (i + 1))
  byId : m.byId.Perm (tasks.filterMap Task.entry?)
  byUrl : m.byUrl.Perm (tasks.filterMap Task.filed?)
  stands : ∀ t ∈ tasks, t.Stands m

namespace Sound

variable {partOf : String → Nat} {tasks tasks' rest : List Task} {t t' : Task} {m m' : Indexes}
  {url : String} {id : LinkId}

theorem perm (h : Sound partOf tasks m) (same : tasks.Perm tasks') : Sound partOf tasks' m where
  claims := (same.filterMap _).nodup_iff.mp h.claims
  locks := h.locks.trans (same.filterMap _)
  next := by rw [h.next, (same.filterMap _).length_eq]
  numbers := by
    rw [← (same.filterMap Task.number?).length_eq]
    exact (same.filterMap _).symm.trans h.numbers
  byId := h.byId.trans (same.filterMap _)
  byUrl := h.byUrl.trans (same.filterMap _)
  stands t ht := h.stands t (same.mem_iff.mpr ht)

/-! ## What is in the indexes -/

theorem mem_byUrl (h : Sound partOf tasks m) :
    (url, id) ∈ m.byUrl ↔ .insert url (.finished (.ok id)) ∈ tasks := by
  simp [h.byUrl.mem_iff, Task.filed?_eq_some_iff]

theorem mem_byId (h : Sound partOf tasks m) : (id, url) ∈ m.byId ↔
    .insert url (.written id) ∈ tasks ∨ .insert url (.finished (.ok id)) ∈ tasks := by
  simp [h.byId.mem_iff, Task.entry?_eq_some_iff, and_or_left, exists_or]

/-- What is filed by url was entered by id before. -/
theorem byId_of_byUrl (h : Sound partOf tasks m) (filed : (url, id) ∈ m.byUrl) :
    (id, url) ∈ m.byId :=
  h.mem_byId.mpr (.inr (h.mem_byUrl.mp filed))

theorem byUrl_nodup (h : Sound partOf tasks m) : (m.byUrl.map Prod.fst).Nodup := by
  rw [(h.byUrl.map Prod.fst).nodup_iff, List.map_filterMap]
  refine nodup_filterMap_of_imp (fun t url hurl => ?_) h.claims
  obtain ⟨⟨url, id⟩, filed, rfl⟩ := Option.map_eq_some_iff.mp hurl
  rw [Task.filed?_eq_some_iff.mp filed]
  rfl

theorem idOf?_eq_some_iff (h : Sound partOf tasks m) :
    m.idOf? url = some id ↔ (url, id) ∈ m.byUrl :=
  lookup_eq_some_iff_mem h.byUrl_nodup

theorem mem_numbers (h : Sound partOf tasks m) : id ∈ tasks.filterMap Task.number? ↔
    ∃ i < (tasks.filterMap Task.number?).length, LinkId.ofNat (i + 1) = id := by
  rw [h.numbers.mem_iff]
  simp

section

variable (few : (tasks.filterMap Task.number?).length < idCount)

include few

/-- As long as there are words, nobody is given a number that another has. -/
theorem numbers_nodup (h : Sound partOf tasks m) : (tasks.filterMap Task.number?).Nodup := by
  refine h.numbers.nodup_iff.mpr (List.nodup_range.map_on fun i hi j hj same => ?_)
  rw [List.mem_range] at hi hj
  have := (LinkId.ofNat_inj (by omega) (by omega)).mp same
  omega

theorem byId_nodup (h : Sound partOf tasks m) : (m.byId.map Prod.fst).Nodup := by
  rw [(h.byId.map Prod.fst).nodup_iff, List.map_filterMap]
  refine nodup_filterMap_of_imp (fun t id hid => ?_) (h.numbers_nodup few)
  obtain ⟨⟨id, url⟩, entry, rfl⟩ := Option.map_eq_some_iff.mp hid
  exact Task.number?_of_entry? entry

theorem get?_eq_some_iff (h : Sound partOf tasks m) :
    m.get? id = some ⟨id, url⟩ ↔ (id, url) ∈ m.byId := by
  rw [← lookup_eq_some_iff_mem (h.byId_nodup few)]
  simp [Indexes.get?]

end

/-! ## While no insertion is on its way -/

section

variable (quiet : ∀ t ∈ tasks, t.isBusy = false)

include quiet

theorem numbers_of_quiet :
    tasks.filterMap Task.number? = (tasks.filterMap Task.entry?).map Prod.fst := by
  rw [List.map_filterMap]
  exact List.filterMap_congr fun t ht => (Task.of_not_isBusy (quiet t ht)).2

theorem length_numbers_of_quiet (h : Sound partOf tasks m) :
    (tasks.filterMap Task.number?).length = m.size := by
  rw [numbers_of_quiet quiet, List.length_map, ← h.byId.length_eq, Indexes.size]

/-- The two indexes are inverse to each other. -/
theorem holds_of_quiet (h : Sound partOf tasks m) : m.Holds m.ledger where
  ledger_eq := rfl
  inverse := by
    have same : tasks.filterMap Task.filed? = (tasks.filterMap Task.entry?).map Prod.swap := by
      rw [List.map_filterMap]
      exact List.filterMap_congr fun t ht => (Task.of_not_isBusy (quiet t ht)).1
    exact (same ▸ h.byUrl).trans (h.byId.map Prod.swap).symm
  urls_nodup := h.byUrl_nodup

/-- The ids are the numbers up to the size of the indexes. -/
theorem coherent_of_quiet (h : Sound partOf tasks m)
    (few : (tasks.filterMap Task.number?).length < idCount) :
    m.ledger.Coherent (m.size + 1) := by
  have length := h.length_numbers_of_quiet quiet
  have holds := h.holds_of_quiet quiet
  refine ⟨?_, by omega, ?_, ?_, holds.ledger_urls_nodup⟩
  · rw [← length]
    exact h.next
  · rintro ⟨id, url⟩ hlink
    have taken : id ∈ tasks.filterMap Task.number? := by
      rw [numbers_of_quiet quiet]
      exact List.mem_map.mpr ⟨(id, url), h.byId.mem_iff.mp (holds.mem_byId.mpr hlink), rfl⟩
    obtain ⟨i, hi, rfl⟩ := h.mem_numbers.mp taken
    rw [LinkId.toNat_ofNat (by omega)]
    omega
  · have ids : m.ledger.links.map Link.id = (m.byId.map Prod.fst).reverse := by
      simp [Indexes.ledger, Function.comp_def]
    rw [ids]
    exact List.nodup_reverse.mpr (h.byId_nodup few)

end

/-- A url that is not there, and whose part is free, is claimed by nobody. -/
theorem not_mem_claims (h : Sound partOf tasks m) (free : partOf url ∉ m.locked)
    (vacant : m.idOf? url = none) : url ∉ tasks.filterMap Task.claim? := by
  intro claimed
  obtain ⟨t, ht, claim⟩ := List.mem_filterMap.mp claimed
  rcases Task.of_claim? partOf claim with part | ⟨id, filed⟩
  · exact free (h.locks.mem_iff.mpr (List.mem_filterMap.mpr ⟨t, ht, part⟩))
  · have there : (url, id) ∈ m.byUrl := h.byUrl.mem_iff.mpr (List.mem_filterMap.mpr ⟨t, ht, filed⟩)
    rw [h.idOf?_eq_some_iff.mpr there] at vacant
    cases vacant

/-! ## One step -/

/-- What a step answers is so. -/
theorem stands_step (h : Sound partOf (t :: rest) m) (steps : t.Steps partOf m t' m') :
    t'.Stands m' := by
  cases steps with
  | lose free there => exact ⟨rfl, _, h.idOf?_eq_some_iff.mp there⟩
  | @find url =>
    cases found : m.idOf? url with
    | none => exact trivial
    | some id => exact h.idOf?_eq_some_iff.mp found
  | @get id =>
    cases found : m.get? id with
    | none => exact trivial
    | some link => exact Indexes.mem_of_get?_eq_some found
  | claim | number | enter | file => exact trivial

/-- **A step keeps the indexes sound.** Each part of soundness is at stake in one or two of the
    steps only. -/
theorem step (h : Sound partOf (t :: rest) m) (steps : t.Steps partOf m t' m') :
    Sound partOf (t' :: rest) m' where
  claims := by
    cases steps with
    | claim free vacant =>
      -- A claim lasts beyond the lock, so it is not enough that the part is free.
      exact List.nodup_cons.mpr ⟨h.not_mem_claims free vacant, h.claims⟩
    | lose | number | enter | file | find | get => exact h.claims
  locks := by
    cases steps with
    | claim free vacant => exact h.locks.cons _
    | @file url id =>
      have locks : m.locked.Perm (partOf url :: rest.filterMap (Task.part? partOf)) := h.locks
      have left := locks.erase (partOf url)
      rwa [List.erase_cons_head] at left
    | lose | number | enter | find | get => exact h.locks
  next := by
    cases steps with
    | number =>
      simp only [h.next, LinkId.ofNat_succ]
      rfl
    | lose | claim | enter | file | find | get => exact h.next
  numbers := by
    cases steps with
    | number =>
      -- The number that comes next goes behind those that were taken.
      let taken := rest.filterMap Task.number?
      have first : taken.Perm ((List.range taken.length).map fun i => .ofNat (i + 1)) := h.numbers
      have next : m.next = .ofNat (taken.length + 1) := h.next
      show (m.next :: taken).Perm ((List.range (taken.length + 1)).map fun i => .ofNat (i + 1))
      rw [List.range_succ, List.map_append, List.map_singleton, ← next]
      exact (first.cons m.next).trans (List.perm_append_singleton _ _).symm
    | lose | claim | enter | file | find | get => exact h.numbers
  byId := by
    cases steps with
    | enter => exact h.byId.cons _
    | lose | claim | number | file | find | get => exact h.byId
  byUrl := by
    cases steps with
    | file => exact h.byUrl.cons _
    | lose | claim | number | enter | find | get => exact h.byUrl
  stands := by
    intro task htask
    rcases List.mem_cons.mp htask with rfl | others
    · exact h.stands_step steps
    · exact (h.stands task (List.mem_cons_of_mem t others)).mono steps.grows

end Sound

end LinkLedger
