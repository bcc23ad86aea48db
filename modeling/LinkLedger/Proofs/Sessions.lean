import LinkLedger.Proofs.Store.Faults
import LinkLedger.Proofs.Store.Rows
import LinkLedger.Session

/-!
# Sessions as programs in a row

Users of a session ask the store, make and resolve links, and send requests. Each of these runs one
program, so what users do in a session is to run programs one after another against what keeps the
links (`Session.run_operations`), as long as no fault is planned.

**A session in memory does what the ledger does** (`Session.run_memory`), whatever the users do.
**A session on a table does too** (`Session.run_table`), until the keys run out.
-/

set_option autoImplicit false

namespace LinkLedger

open LinkLedger.Http LinkLedger.Gateway

/-! ## What users do -/

/-- What users do in a session. -/
inductive Operation where
  | ask (call : Call)
  | make (url : String)
  | resolve (id : LinkId)
  | send (request : Request)

namespace Operation

def step : Operation → Step
  | ask call => .ask call
  | make url => .make url
  | resolve id => .resolve id
  | send request => .send request

def program (base : Base) : Operation → Program Outcome
  | ask call => .ask call fun result => .done (.ofAnswer call result)
  | make url => (Desk.make url).bind fun result => .done (.made result)
  | resolve id => (Desk.resolve id).bind fun result => .done (.resolved result)
  | send request => (respond base request).bind fun response => .done (.response response)

end Operation

namespace Session

theorem request_of_quiet {α : Type} {s : Session} (quiet : s.faults = .none) (p : Program α)
    (outcome : α → Outcome) :
    s.request p outcome =
      ⟨outcome (p.run Backing.store s.backing).value,
        { s with backing := (p.run Backing.store s.backing).state },
        (p.run Backing.store s.backing).events⟩ := by
  rw [request, quiet, Program.run_faulty]

/-- What users do runs one program against what keeps the links. -/
theorem step_operation {s : Session} (quiet : s.faults = .none) (o : Operation) :
    s.step o.step =
      ⟨((o.program s.base).run Backing.store s.backing).value,
        { s with backing := ((o.program s.base).run Backing.store s.backing).state },
        ((o.program s.base).run Backing.store s.backing).events⟩ := by
  cases o with
  | ask call => simp [step, Operation.step, Operation.program]
  | make url =>
    simp [step, Operation.step, Operation.program, request_of_quiet quiet, Program.run_bind]
  | resolve id =>
    simp [step, Operation.step, Operation.program, request_of_quiet quiet, Program.run_bind]
  | send request =>
    simp [step, Operation.step, Operation.program, request_of_quiet quiet, Program.run_bind]

/-- **What users do in a session is to run programs one after another.** -/
theorem run_operations (operations : List Operation) :
    ∀ {s : Session}, s.faults = .none →
      s.run (operations.map Operation.step) =
        ({ s with
            backing := (Program.runAll Backing.store (operations.map (Operation.program s.base))
              s.backing).1 },
          (Program.runAll Backing.store (operations.map (Operation.program s.base))
            s.backing).2) := by
  induction operations with
  | nil =>
    intro s quiet
    rfl
  | cons o more ih =>
    intro s quiet
    simp only [List.map_cons, run, step_operation quiet, Program.runAll_cons]
    rw [ih]
    exact quiet

end Session

/-! ## What keeps the links -/

/-- What is in step with the indexes is in step with keeping the links in memory. -/
theorem Lockstep.memory {τ : Type} {B : Store τ} {R : Indexes → τ → Prop} {Room : τ → Prop}
    (h : Lockstep Indexes.store B R Room) :
    Lockstep Backing.store B (fun backing t => ∃ m, backing = .memory m ∧ R m t) Room where
  room_before := h.room_before
  answer_eq := by
    rintro call _ t ⟨m, rfl, related⟩ room
    exact h.answer_eq call related room
  related := by
    rintro call _ t ⟨m, rfl, related⟩ room
    exact ⟨_, rfl, h.related call related room⟩
  remarks_eq := by
    rintro call _ t ⟨m, rfl, related⟩
    exact h.remarks_eq related

/-- And so with the connections to a table and keeping the links in a database. -/
theorem Lockstep.database {τ : Type} {B : Store τ} {R : Pool → τ → Prop} {Room : τ → Prop}
    (h : Lockstep Pool.store B R Room) :
    Lockstep Backing.store B (fun backing t => ∃ p, backing = .database p ∧ R p t) Room where
  room_before := h.room_before
  answer_eq := by
    rintro call _ t ⟨p, rfl, related⟩ room
    exact h.answer_eq call related room
  related := by
    rintro call _ t ⟨p, rfl, related⟩ room
    exact ⟨_, rfl, h.related call related room⟩
  remarks_eq := by
    rintro call _ t ⟨p, rfl, related⟩
    exact h.remarks_eq related

namespace Session

/-- A new session after users have done things in order, and what came of each. -/
def use (backing : Backing) (base : Base) (operations : List Operation) :
    Session × List (Outcome × List Event) :=
  (start backing base).run (operations.map Operation.step)

/-- What users do to the empty ledger: the ledger afterwards, and what came of each operation. -/
def onLedger (base : Base) (operations : List Operation) :
    Ledger × List (Outcome × List Event) :=
  Program.runAll Ledger.store (operations.map (Operation.program base)) .empty

theorem onLedger_append (base : Base) (before after : List Operation) :
    onLedger base (before ++ after) =
      ((Program.runAll Ledger.store (after.map (Operation.program base))
          (onLedger base before).1).1,
        (onLedger base before).2 ++ (Program.runAll Ledger.store
          (after.map (Operation.program base)) (onLedger base before).1).2) := by
  rw [onLedger, List.map_append, Program.runAll_append]
  rfl

@[simp] theorem length_onLedger (base : Base) (operations : List Operation) :
    (onLedger base operations).2.length = operations.length := by
  rw [onLedger, Program.length_runAll, List.length_map]

theorem getElem?_onLedger (base : Base) {operations : List Operation} {i : Nat} {o : Operation}
    (h : operations[i]? = some o) :
    (onLedger base operations).2[i]? =
      some (((o.program base).run Ledger.store (onLedger base (operations.take i)).1).value,
        ((o.program base).run Ledger.store (onLedger base (operations.take i)).1).events) := by
  obtain ⟨hi, rfl⟩ := List.getElem?_eq_some_iff.mp h
  have split : operations = operations.take i ++ operations[i] :: operations.drop (i + 1) := by
    rw [← List.drop_eq_getElem_cons hi, List.take_append_drop]
  have length : (onLedger base (operations.take i)).2.length = i := by
    rw [length_onLedger, List.length_take]
    omega
  conv => lhs; rw [split]
  rw [onLedger_append, List.getElem?_append_right (by omega), length, Nat.sub_self]
  rfl

/-- What users do only ever adds links, at the end. -/
theorem links_prefix_onLedger (base : Base) {before operations : List Operation}
    (h : before <+: operations) :
    (onLedger base before).1.links <+: (onLedger base operations).1.links := by
  obtain ⟨after, rfl⟩ := h
  rw [onLedger_append]
  have keeps : ∀ call (l : Ledger), (onLedger base before).1.links <+: l.links →
      (onLedger base before).1.links <+: (Ledger.store.answer call l).2.links :=
    fun call l grown => grown.trans (Ledger.links_prefix_answer call l)
  exact Program.runAll_keeps keeps _ List.prefix_rfl

/-- **A session in memory does what the ledger does.** -/
theorem run_memory (base : Base) (operations : List Operation) :
    ∃ m : Indexes, m.Holds (onLedger base operations).1 ∧
      use (.memory .empty) base operations =
        (start (.memory m) base, (onLedger base operations).2) := by
  obtain ⟨outcomes, m, hm, holds⟩ := Indexes.lockstep.memory.runAll
    (operations.map (Operation.program base)) ⟨.empty, rfl, Indexes.holds_empty⟩ trivial
  refine ⟨m, holds, ?_⟩
  rw [use, run_operations operations rfl]
  exact Prod.ext (congrArg (start · base) hm) outcomes

theorem step_use_memory (base : Base) (operations : List Operation) (o : Operation) :
    ((use (.memory .empty) base operations).1.step o.step).value =
      ((o.program base).run Ledger.store (onLedger base operations).1).value := by
  obtain ⟨m, holds, ran⟩ := run_memory base operations
  rw [ran, step_operation rfl]
  exact (Indexes.lockstep.memory.run (o.program base) ⟨m, rfl, holds⟩ trivial).1

theorem coherent_onLedger (base : Base) (operations : List Operation)
    (few : (onLedger base operations).1.size < idCount) :
    (onLedger base operations).1.Coherent (1 + (onLedger base operations).1.size) := by
  have lockstep := Indexes.healthy.lockstep (fun _ _ => rfl) 1
  have room : 1 + (onLedger base operations).1.size ≤ idCount := by omega
  exact (lockstep.runAll (operations.map (Operation.program base))
    ⟨Indexes.holds_empty, Ledger.coherent_empty⟩ room).2.2

theorem size_run_memory (base : Base) (operations : List Operation) :
    (use (.memory .empty) base operations).1.backing.size =
      .ok (.links (onLedger base operations).1.size) := by
  obtain ⟨m, holds, ran⟩ := run_memory base operations
  rw [ran, ← holds.size_eq]
  rfl

/-- **A session on a table does what the ledger does**, until the keys run out. -/
theorem run_table (base : Base) (operations : List Operation)
    (few : (onLedger base operations).1.size < maxKey) :
    ∃ p : Pool, p.Holds (onLedger base operations).1 ∧
      use (.database .fresh) base operations =
        (start (.database p) base, (onLedger base operations).2) := by
  have lockstep := (Pool.healthy.lockstep (fun _ _ => rfl) 1).database
  obtain ⟨outcomes, p, hp, holds, -⟩ := lockstep.runAll (operations.map (Operation.program base))
    ⟨.fresh, rfl, Pool.holds_fresh, Ledger.coherent_empty⟩ (by
      show 1 + (onLedger base operations).1.size ≤ maxKey
      omega)
  refine ⟨p, holds, ?_⟩
  rw [use, run_operations operations rfl]
  exact Prod.ext (congrArg (start · base) hp) outcomes

end Session

end LinkLedger
