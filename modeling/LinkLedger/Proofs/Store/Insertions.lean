import Mathlib.Algebra.GroupWithZero.Nat
import LinkLedger.Proofs.Store.Tasks

/-!
# Insertions at a time

Any number of questions to the indexes in memory are in progress at a time and take turns, step by
step. Every schedule keeps the indexes sound (`Workload.sound_run`), and entries are only ever added
(`Workload.grows_run`). A look-up is answered by what the indexes held at one moment
(`Workload.reads_run`). Nobody waits for ever: as long as somebody has not answered, somebody can
take a step, because whoever has locked a part never waits (`Workload.answered_of_still`), so
everybody has answered after enough rounds (`Workload.answered_of_rounds`).

**An insertion looks as if it were made in one go (`Workload.insertions_are_atomic`)**: nobody ever
finds a url whose link is not there, one insertion of a url succeeds and the others are told so when
its link can be found, and while no insertion is on its way the two indexes are inverse to each
other. Only the order of the ids tells that there are steps: a number is taken before the link is
written, so an id may be given out while a smaller one does not lead anywhere yet.

An insertion that nobody interrupts does what `Indexes.insert` does
(`Workload.insert_uninterrupted`).
-/

set_option autoImplicit false

namespace LinkLedger

namespace Workload

variable {partOf : String → Nat} {w : Workload} {calls : List Call} {i j : Nat} {t t' : Task}

/-! ## Turns -/

theorem turn_of_none (h : w.tasks[i]? = none) : w.turn partOf i = w := by
  simp only [turn, h]

theorem turn_of_some (h : w.tasks[i]? = some t) :
    w.turn partOf i =
      ⟨w.tasks.set i (t.step partOf w.indexes).1, (t.step partOf w.indexes).2⟩ := by
  simp only [turn, h]

/-- A turn changes nothing, or somebody takes a step. -/
theorem turn_cases (partOf : String → Nat) (w : Workload) (i : Nat) :
    w.turn partOf i = w ∨ ∃ t t' m', w.tasks[i]? = some t ∧ t.Steps partOf w.indexes t' m' ∧
      w.turn partOf i = ⟨w.tasks.set i t', m'⟩ := by
  cases ht : w.tasks[i]? with
  | none => exact .inl (turn_of_none ht)
  | some t =>
    rw [turn_of_some ht]
    rcases t.step_cases partOf w.indexes with ⟨rests, -, -⟩ | ⟨t', m', after, steps⟩
    · obtain ⟨hi, rfl⟩ := List.getElem?_eq_some_iff.mp ht
      left
      rw [rests, List.set_getElem_self]
    · rw [after]
      exact .inr ⟨t, t', m', rfl, steps, rfl⟩

/-- Whoever has the turn may be taken to stand in front, before the turn and after it. -/
theorem perm_front (h : w.tasks[i]? = some t) (t' : Task) :
    w.tasks.Perm (t :: w.tasks.eraseIdx i) ∧
      (w.tasks.set i t').Perm (t' :: w.tasks.eraseIdx i) := by
  obtain ⟨hi, rfl⟩ := List.getElem?_eq_some_iff.mp h
  exact ⟨(List.getElem_cons_eraseIdx_perm hi).symm, List.set_perm_cons_eraseIdx hi t'⟩

theorem sound_turn (h : Sound partOf w.tasks w.indexes) (i : Nat) :
    Sound partOf (w.turn partOf i).tasks (w.turn partOf i).indexes := by
  rcases turn_cases partOf w i with same | ⟨t, t', m', ht, steps, after⟩
  · rwa [same]
  · obtain ⟨front, front'⟩ := perm_front ht t'
    rw [after]
    exact ((h.perm front).step steps).perm front'.symm

theorem grows_turn (partOf : String → Nat) (w : Workload) (i : Nat) :
    w.indexes.Grows (w.turn partOf i).indexes := by
  rcases turn_cases partOf w i with same | ⟨t, t', m', -, steps, after⟩
  · rw [same]
    exact .refl _
  · rw [after]
    exact steps.grows

/-- The tasks after a turn: the one whose turn it was has taken a step. -/
theorem getElem?_turn (partOf : String → Nat) (w : Workload) (i j : Nat) :
    (w.turn partOf i).tasks[j]? =
      if i = j then w.tasks[j]?.map fun t => (t.step partOf w.indexes).1 else w.tasks[j]? := by
  cases ht : w.tasks[i]? with
  | none =>
    rw [turn_of_none ht]
    split
    · next hij =>
      rw [← hij, ht, Option.map_none]
    · rfl
  | some t =>
    have hi : i < w.tasks.length := (List.getElem?_eq_some_iff.mp ht).1
    rw [turn_of_some ht, List.getElem?_set, if_pos hi]
    split
    · next hij =>
      rw [← hij, ht, Option.map_some]
    · rfl

theorem calls_turn (partOf : String → Nat) (w : Workload) (i : Nat) :
    (w.turn partOf i).tasks.map Task.call = w.tasks.map Task.call := by
  refine List.ext_getElem? fun j => ?_
  rw [List.getElem?_map, List.getElem?_map, getElem?_turn]
  split
  · rw [Option.map_map]
    exact Option.map_congr fun t _ => t.call_step partOf w.indexes
  · rfl

/-! ## Schedules -/

@[simp] theorem run_nil (partOf : String → Nat) (w : Workload) : w.run partOf [] = w := rfl

@[simp] theorem run_cons (partOf : String → Nat) (w : Workload) (i : Nat) (schedule : List Nat) :
    w.run partOf (i :: schedule) = (w.turn partOf i).run partOf schedule := rfl

theorem run_append (partOf : String → Nat) (w : Workload) (first more : List Nat) :
    w.run partOf (first ++ more) = (w.run partOf first).run partOf more :=
  List.foldl_append

/-- **Every schedule keeps the indexes sound.** -/
theorem sound_run (schedule : List Nat) : ∀ {w : Workload}, Sound partOf w.tasks w.indexes →
    Sound partOf (w.run partOf schedule).tasks (w.run partOf schedule).indexes := by
  induction schedule with
  | nil => exact fun h => h
  | cons i schedule ih => exact fun h => ih (sound_turn h i)

theorem grows_run (partOf : String → Nat) (schedule : List Nat) : ∀ w : Workload,
    w.indexes.Grows (w.run partOf schedule).indexes := by
  induction schedule with
  | nil => exact fun w => .refl _
  | cons i schedule ih => exact fun w => (grows_turn partOf w i).trans (ih _)

theorem calls_run (partOf : String → Nat) (schedule : List Nat) : ∀ w : Workload,
    (w.run partOf schedule).tasks.map Task.call = w.tasks.map Task.call := by
  induction schedule with
  | nil => exact fun w => rfl
  | cons i schedule ih => exact fun w => (ih _).trans (calls_turn partOf w i)

theorem length_run (partOf : String → Nat) (schedule : List Nat) (w : Workload) :
    (w.run partOf schedule).tasks.length = w.tasks.length := by
  rw [← List.length_map Task.call, calls_run, List.length_map]

theorem calls_start (calls : List Call) : (start calls).tasks.map Task.call = calls := by
  rw [start, List.map_map]
  refine (List.map_congr_left fun call _ => ?_).trans (List.map_id calls)
  cases call <;> rfl

/-- Before anybody has taken a step nobody has done anything. -/
theorem sound_start (partOf : String → Nat) (calls : List Call) :
    Sound partOf (start calls).tasks (start calls).indexes := by
  have nothing {α : Type} (f : Task → Option α) (none : ∀ call, f (Task.ofCall call) = none) :
      (start calls).tasks.filterMap f = [] := by
    simp [start, none]
  have claims := nothing Task.claim? (by rintro (_ | _ | _) <;> rfl)
  have locks := nothing (Task.part? partOf) (by rintro (_ | _ | _) <;> rfl)
  have numbers := nothing Task.number? (by rintro (_ | _ | _) <;> rfl)
  have entries := nothing Task.entry? (by rintro (_ | _ | _) <;> rfl)
  have filed := nothing Task.filed? (by rintro (_ | _ | _) <;> rfl)
  constructor
  · rw [claims]
    exact List.nodup_nil
  · rw [locks]
    exact .nil
  · rw [numbers]
    rfl
  · rw [numbers]
    exact .nil
  · rw [entries]
    exact .nil
  · rw [filed]
    exact .nil
  · intro t ht
    obtain ⟨call, -, rfl⟩ := List.mem_map.mp ht
    cases call <;> exact trivial

/-! ## Answers -/

theorem run_of_answered (answered : t.isAnswered = true) (schedule : List Nat) :
    ∀ {w : Workload}, w.tasks[j]? = some t → (w.run partOf schedule).tasks[j]? = some t := by
  induction schedule with
  | nil => exact fun ht => ht
  | cons i schedule ih =>
    intro w ht
    refine ih ?_
    rw [getElem?_turn]
    split
    · rw [ht, Option.map_some, Task.step_of_answered answered]
    · exact ht

/-- **A look-up is answered by what the indexes held at one moment** since it was asked, if it has
    been answered at all. -/
theorem reads_run (schedule : List Nat) : ∀ {w : Workload}, w.tasks[j]? = some t →
    t.call.isInsertion = false → (w.run partOf schedule).tasks[j]? = some t ∨
      ∃ first, first <+: schedule ∧
        (w.run partOf schedule).tasks[j]? = some (t.read (w.run partOf first).indexes) := by
  induction schedule with
  | nil => exact fun ht _ => .inl ht
  | cons i schedule ih =>
    intro w ht lookUp
    have later (ht : (w.turn partOf i).tasks[j]? = some t) :
        (w.run partOf (i :: schedule)).tasks[j]? = some t ∨ ∃ first, first <+: i :: schedule ∧
          (w.run partOf (i :: schedule)).tasks[j]? =
            some (t.read (w.run partOf first).indexes) := by
      refine (ih ht lookUp).imp_right ?_
      rintro ⟨first, begins, answered⟩
      exact ⟨i :: first, List.cons_prefix_cons.mpr ⟨rfl, begins⟩, answered⟩
    have turn := getElem?_turn partOf w i j
    split at turn
    · rw [ht, Option.map_some] at turn
      rcases Task.step_of_lookUp lookUp partOf w.indexes with waits | reads
      · exact later (waits ▸ turn)
      · rw [reads] at turn
        exact .inr ⟨[], List.nil_prefix,
          run_of_answered (Task.isAnswered_read lookUp w.indexes) schedule turn⟩
    · exact later (turn.trans ht)

/-! ## Steps that are left -/

def stepsLeft (w : Workload) : Nat := (w.tasks.map Task.stepsLeft).sum

theorem stepsLeft_set_lt (h : w.tasks[i]? = some t) (fewer : t'.stepsLeft < t.stepsLeft)
    (m : Indexes) : stepsLeft ⟨w.tasks.set i t', m⟩ < w.stepsLeft := by
  obtain ⟨front, front'⟩ := perm_front h t'
  have before := (front.map Task.stepsLeft).sum_nat
  have after := (front'.map Task.stepsLeft).sum_nat
  rw [List.map_cons, List.sum_cons] at before after
  rw [stepsLeft, stepsLeft, before, after]
  exact Nat.add_lt_add_right fewer _

/-- A turn changes nothing, or fewer steps are left. -/
theorem stepsLeft_turn (partOf : String → Nat) (w : Workload) (i : Nat) :
    w.turn partOf i = w ∨ (w.turn partOf i).stepsLeft < w.stepsLeft := by
  refine (turn_cases partOf w i).imp_right ?_
  rintro ⟨t, t', m', ht, steps, after⟩
  rw [after]
  exact stepsLeft_set_lt ht steps.stepsLeft_lt m'

theorem stepsLeft_run (partOf : String → Nat) (schedule : List Nat) : ∀ w : Workload,
    (w.run partOf schedule = w ∧ ∀ i ∈ schedule, w.turn partOf i = w) ∨
      (w.run partOf schedule).stepsLeft < w.stepsLeft := by
  induction schedule with
  | nil => exact fun w => .inl ⟨rfl, fun i hi => absurd hi List.not_mem_nil⟩
  | cons i schedule ih =>
    intro w
    rw [run_cons]
    rcases stepsLeft_turn partOf w i with same | fewer
    · rw [same]
      exact (ih w).imp_left fun still => ⟨still.1, List.forall_mem_cons.mpr ⟨same, still.2⟩⟩
    · right
      rcases ih (w.turn partOf i) with ⟨same, -⟩ | fewer'
      · rwa [same]
      · exact Nat.lt_trans fewer' fewer

/-- **Nobody waits for ever**: if nobody can take a step, everybody has answered. -/
theorem answered_of_still (h : Sound partOf w.tasks w.indexes)
    (still : ∀ i < w.tasks.length, w.turn partOf i = w) : ∀ t ∈ w.tasks, t.isAnswered = true := by
  -- Nobody can take a step, so nobody is in the middle of an insertion, so nothing is locked.
  have rests : ∀ t ∈ w.tasks, t.isBusy = false ∧ (t.isAnswered = true ∨ w.indexes.locked ≠ []) := by
    intro t ht
    obtain ⟨i, hi, rfl⟩ := List.mem_iff_getElem.mp ht
    have here : w.tasks[i]? = some w.tasks[i] := List.getElem?_eq_getElem hi
    rcases Task.step_cases partOf w.indexes w.tasks[i] with ⟨-, idle⟩ | ⟨t', m', after, steps⟩
    · exact idle
    · have fewer := stepsLeft_set_lt here steps.stepsLeft_lt m'
      have turn : w.turn partOf i = ⟨w.tasks.set i _, _⟩ := turn_of_some here
      rw [after, still i hi] at turn
      rw [← turn] at fewer
      exact absurd fewer (Nat.lt_irrefl _)
  have unlocked : w.indexes.locked = [] := by
    refine List.eq_nil_iff_forall_not_mem.mpr fun part locked => ?_
    obtain ⟨t, ht, holds⟩ := List.mem_filterMap.mp (h.locks.mem_iff.mp locked)
    have busy := Task.isBusy_of_part? holds
    rw [(rests t ht).1] at busy
    cases busy
  exact fun t ht => (rests t ht).2.resolve_right fun locked => locked unlocked

theorem run_of_still (still : ∀ i < w.tasks.length, w.turn partOf i = w) (schedule : List Nat) :
    w.run partOf schedule = w := by
  induction schedule with
  | nil => rfl
  | cons i schedule ih =>
    rw [run_cons]
    by_cases hi : i < w.tasks.length
    · rw [still i hi, ih]
    · rw [turn_of_none (List.getElem?_eq_none (Nat.le_of_not_lt hi)), ih]

/-- **Everybody has answered after enough rounds**, in which everybody has a turn. -/
theorem answered_of_rounds (rounds : List (List Nat)) : ∀ {w : Workload},
    Sound partOf w.tasks w.indexes →
    (∀ round ∈ rounds, ∀ i < w.tasks.length, i ∈ round) → w.stepsLeft ≤ rounds.length →
    ∀ t ∈ (w.run partOf rounds.flatten).tasks, t.isAnswered = true := by
  induction rounds with
  | nil =>
    intro w h _ none
    refine answered_of_still h fun i _ => ?_
    exact (stepsLeft_turn partOf w i).resolve_right fun fewer =>
      Nat.not_lt_zero _ (Nat.lt_of_lt_of_le fewer none)
  | cons round rounds ih =>
    intro w h everybody few
    rw [List.flatten_cons, run_append]
    obtain ⟨now, later⟩ := List.forall_mem_cons.mp everybody
    rcases stepsLeft_run partOf round w with ⟨same, still⟩ | fewer
    · -- A round in which nothing happens shows that there is nothing left to do.
      have rests : ∀ i < w.tasks.length, w.turn partOf i = w := fun i hi => still i (now i hi)
      rw [same, run_of_still rests]
      exact answered_of_still h rests
    · refine ih (sound_run round h) ?_ ?_
      · rwa [length_run]
      · rw [List.length_cons] at few
        exact Nat.le_of_lt_succ (Nat.lt_of_lt_of_le fewer few)

theorem stepsLeft_le (w : Workload) : w.stepsLeft ≤ 4 * w.tasks.length := by
  rw [stepsLeft]
  induction w.tasks with
  | nil => exact Nat.zero_le _
  | cons t rest ih =>
    have := t.stepsLeft_le
    rw [List.map_cons, List.sum_cons, List.length_cons]
    omega

/-! ## One insertion alone -/

theorem turn_set (hi : i < w.tasks.length) (m : Indexes) :
    turn partOf ⟨w.tasks.set i t, m⟩ i =
      ⟨w.tasks.set i (t.step partOf m).1, (t.step partOf m).2⟩ := by
  rw [turn_of_some (List.getElem?_set_self hi), List.set_set]

/-- **An insertion that nobody interrupts** does what an insertion in one go does. -/
theorem insert_uninterrupted {url : String} (h : w.tasks[i]? = some (.insert url .waiting))
    (free : partOf url ∉ w.indexes.locked) :
    w.run partOf [i, i, i, i] =
      ⟨w.tasks.set i (.insert url (.finished (w.indexes.insert url).1)),
        (w.indexes.insert url).2⟩ := by
  obtain ⟨hi, -⟩ := List.getElem?_eq_some_iff.mp h
  simp only [run_cons, run_nil, turn_of_some h, turn_set hi]
  cases found : w.indexes.idOf? url with
  | some id => simp [Task.step, Task.stepInsert, Indexes.insert, free, found]
  | none =>
    simp [Task.step, Task.stepInsert, Indexes.insert, Indexes.lock, Indexes.unlock, free, found]

/-! ## Insertions at a time -/

/-- What can be said of questions in progress at a moment, whatever turns are taken from then on. -/
structure Orderly (partOf : String → Nat) (calls : List Call) (w : Workload) : Prop where
  /-- The tasks are those of the questions, in their order. -/
  calls_eq : w.tasks.map Task.call = calls
  /-- What can be found by url can be found by id, then and ever after. -/
  found : ∀ url id, w.indexes.idOf? url = some id → ∀ more,
    (w.run partOf more).indexes.idOf? url = some id ∧
      (w.run partOf more).indexes.get? id = some ⟨id, url⟩
  /-- What can be found by id never changes. -/
  got : ∀ id link, w.indexes.get? id = some link → ∀ more,
    (w.run partOf more).indexes.get? id = some link
  /-- A look-up is as it was, or it is answered by what the indexes hold at a later moment. -/
  reads : ∀ (i : Nat) (t : Task), w.tasks[i]? = some t → t.call.isInsertion = false → ∀ more,
    (w.run partOf more).tasks[i]? = some t ∨ ∃ first, first <+: more ∧
      (w.run partOf more).tasks[i]? = some (t.read (w.run partOf first).indexes)
  /-- What a look-up has found is still there. -/
  find_stands : ∀ url id, Task.find url (some (some id)) ∈ w.tasks →
    w.indexes.idOf? url = some id
  get_stands : ∀ id link, Task.get id (some (some link)) ∈ w.tasks → w.indexes.get? id = some link
  /-- What an insertion that succeeded has written can be found. -/
  won : ∀ url id, Task.insert url (.finished (.ok id)) ∈ w.tasks → w.indexes.idOf? url = some id
  /-- One insertion of a url succeeds. -/
  one_wins : ∀ (i j : Nat) (url : String) (id id' : LinkId),
    w.tasks[i]? = some (.insert url (.finished (.ok id))) →
      w.tasks[j]? = some (.insert url (.finished (.ok id'))) → i = j
  /-- The others are told so, when the link of the one that succeeded can be found. -/
  lost : ∀ url failure, Task.insert url (.finished (.error failure)) ∈ w.tasks →
    failure = ⟨.conflict, url⟩ ∧ ∃ id, Task.insert url (.finished (.ok id)) ∈ w.tasks ∧
      w.indexes.idOf? url = some id
  /-- No two insertions that succeed get the same id. -/
  ids_differ : ∀ (i j : Nat) (url url' : String) (id : LinkId),
    w.tasks[i]? = some (.insert url (.finished (.ok id))) →
      w.tasks[j]? = some (.insert url' (.finished (.ok id))) → i = j
  /-- While no insertion is on its way, the two indexes are inverse to each other and of one size;
      what they stand for is coherent, and the ids are the numbers up to the size. -/
  quiet : w.isQuiet = true →
    (∀ url id, w.indexes.idOf? url = some id ↔ w.indexes.get? id = some ⟨id, url⟩) ∧
      w.indexes.byUrl.length = w.indexes.size ∧ w.indexes.Holds w.indexes.ledger ∧
      w.indexes.ledger.Coherent (w.indexes.size + 1)
  /-- Everybody has answered after four rounds for each question. -/
  answered : ∀ rounds : List (List Nat), (∀ round ∈ rounds, ∀ i < calls.length, i ∈ round) →
    4 * calls.length ≤ rounds.length →
    ∀ t ∈ (w.run partOf rounds.flatten).tasks, t.isAnswered = true

/-- **An insertion looks as if it were made in one go**, whatever the questions that are in progress
    at a time, the parts that their urls belong to and the turns that are taken, as long as there
    are ids for all insertions. -/
theorem insertions_are_atomic (partOf : String → Nat) (calls : List Call)
    (room : calls.countP Call.isInsertion < idCount) (schedule : List Nat) :
    ((start calls).run partOf schedule).Orderly partOf calls := by
  let w := (start calls).run partOf schedule
  have same : w.tasks.map Task.call = calls :=
    (calls_run partOf schedule (start calls)).trans (calls_start calls)
  have h : Sound partOf w.tasks w.indexes := sound_run schedule (sound_start partOf calls)
  have later (more : List Nat) :
      Sound partOf (w.run partOf more).tasks (w.run partOf more).indexes := sound_run more h
  -- Only insertions take numbers, so there are words for them at every moment.
  have few (more : List Nat) :
      ((w.run partOf more).tasks.filterMap Task.number?).length < idCount := by
    have := Task.length_numbers_le (w.run partOf more).tasks
    rw [calls_run, same] at this
    omega
  have now : (w.tasks.filterMap Task.number?).length < idCount := few []
  constructor
  case calls_eq => exact same
  case found =>
    intro url id found more
    have filed : (url, id) ∈ (w.run partOf more).indexes.byUrl :=
      (grows_run partOf more w).byUrl.subset (h.idOf?_eq_some_iff.mp found)
    exact ⟨(later more).idOf?_eq_some_iff.mpr filed,
      ((later more).get?_eq_some_iff (few more)).mpr ((later more).byId_of_byUrl filed)⟩
  case got =>
    intro id link found more
    obtain ⟨rfl, entered⟩ := Indexes.mem_of_get?_eq_some found
    exact ((later more).get?_eq_some_iff (few more)).mpr
      ((grows_run partOf more w).byId.subset entered)
  case reads => exact fun i t ht lookUp more => reads_run more ht lookUp
  case find_stands => exact fun url id ht => h.idOf?_eq_some_iff.mpr (h.stands _ ht)
  case get_stands =>
    intro id link ht
    obtain ⟨rfl, entered⟩ := h.stands _ ht
    exact (h.get?_eq_some_iff now).mpr entered
  case won => exact fun url id ht => h.idOf?_eq_some_iff.mpr (h.mem_byUrl.mpr ht)
  case one_wins =>
    intro i j url id id' ht ht'
    exact eq_of_nodup_filterMap h.claims ht ht' rfl rfl
  case lost =>
    intro url failure ht
    obtain ⟨rfl, id, filed⟩ := h.stands _ ht
    exact ⟨rfl, id, h.mem_byUrl.mp filed, h.idOf?_eq_some_iff.mpr filed⟩
  case ids_differ =>
    intro i j url url' id ht ht'
    exact eq_of_nodup_filterMap (h.numbers_nodup now) ht ht' rfl rfl
  case quiet =>
    intro quiet
    have idle : ∀ t ∈ w.tasks, t.isBusy = false := by simpa [isQuiet] using quiet
    have holds := h.holds_of_quiet idle
    refine ⟨fun url id => ?_, ?_, holds, h.coherent_of_quiet idle now⟩
    · rw [h.idOf?_eq_some_iff, h.get?_eq_some_iff now, holds.mem_byUrl, holds.mem_byId]
    · rw [holds.inverse.length_eq, List.length_map, Indexes.size]
  case answered =>
    intro rounds everybody enough
    have length : w.tasks.length = calls.length := by rw [← same, List.length_map]
    have left := w.stepsLeft_le
    rw [← length] at everybody enough
    exact answered_of_rounds rounds h everybody (Nat.le_trans left enough)

/-- Two insertions of one url and one of another, whose part is the same. While the first is on its
    way its link can be found by id and not by url. The second waits, and is told when the first is
    done; then the third locks the part, so the look-up by url still waits. -/
theorem insertions_are_atomic_in_one_part :
    let partOf : String → Nat := fun _ => 0
    let calls : List Call := [.insert "a", .insert "a", .insert "b", .get ⟨1⟩, .findByUrl "a"]
    let early := (start calls).run partOf [0, 1, 0, 2, 0, 3, 4]
    let late := (start calls).run partOf [0, 1, 0, 2, 0, 3, 4, 0, 1, 2, 4]
    calls.countP Call.isInsertion < idCount ∧
      (early.isQuiet = false ∧ early.indexes.idOf? "a" = none ∧
        early.tasks[3]? = some (.get ⟨1⟩ (some (some ⟨⟨1⟩, "a"⟩))) ∧
        ∀ more, (early.run partOf more).indexes.get? ⟨1⟩ = some ⟨⟨1⟩, "a"⟩) ∧
      (late.tasks[1]? = some (.insert "a" (.finished (.error ⟨.conflict, "a"⟩))) ∧
        late.tasks[4]? = some (.find "a" none) ∧
        ∃ id, Task.insert "a" (.finished (.ok id)) ∈ late.tasks ∧
          late.indexes.idOf? "a" = some id) ∧
      ∀ t ∈ (late.run partOf (List.replicate 20 [4, 3, 2, 1, 0]).flatten).tasks,
        t.isAnswered = true := by
  intro partOf calls early late
  have room : calls.countP Call.isInsertion < idCount := by decide
  have first : early.Orderly partOf calls := insertions_are_atomic partOf calls room _
  have second : late.Orderly partOf calls := insertions_are_atomic partOf calls room _
  have shown : early.tasks[3]? = some (.get ⟨1⟩ (some (some ⟨⟨1⟩, "a"⟩))) := by decide +kernel
  have beaten : late.tasks[1]? = some (.insert "a" (.finished (.error ⟨.conflict, "a"⟩))) := by
    decide +kernel
  refine ⟨room, ⟨by decide +kernel, by decide +kernel, shown, ?_⟩,
    ⟨beaten, by decide +kernel, ?_⟩, ?_⟩
  · exact first.got _ _ (first.get_stands _ _ (List.mem_of_getElem? shown))
  · exact (second.lost _ _ (List.mem_of_getElem? beaten)).2
  · exact second.answered _ (by decide) (by decide)

end Workload

end LinkLedger
