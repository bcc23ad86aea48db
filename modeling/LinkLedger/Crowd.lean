import LinkLedger.Program

/-!
# Requests side by side

Several programs in progress share one store. A schedule says whose turn it is; whoever's turn it is
takes one step, which is one event or one question to the store. Every list of turns is a schedule,
so what holds for all schedules holds however the requests happen to interleave. A turn of a program
that is done, or of one that there is not, is passed over.

`run_advance` ties this to running a program alone: taking one step and running the rest is the same
as running the whole.
-/

set_option autoImplicit false

namespace LinkLedger

/-! ## One step of a program -/

/-- A program after a step, the store after it, and what was reported. -/
structure Advanced (α σ : Type) where
  program : Program α
  state : σ
  events : List Event

namespace Program

variable {α σ : Type}

/-- Takes one step; a program that is done stays as it is. -/
def advance (store : Store σ) : Program α → σ → Advanced α σ
  | done a, s => ⟨done a, s, []⟩
  | report e next, s => ⟨next, s, [e]⟩
  | ask call next, s =>
    let (answer, after) := store.answer call s
    ⟨next answer, after, store.remarks call s⟩

/-- The value of a program that is done. -/
def value? : Program α → Option α
  | done a => some a
  | _ => none

/-- A step and then the rest is the same as the whole. -/
theorem run_advance (store : Store σ) (p : Program α) (s : σ) :
    p.run store s =
      { (p.advance store s).program.run store (p.advance store s).state with
        events := (p.advance store s).events ++
          ((p.advance store s).program.run store (p.advance store s).state).events } := by
  cases p <;> rfl

end Program

/-! ## Crowds -/

/-- Programs in progress, the store that they share, and what has been reported so far. -/
structure Crowd (α σ : Type) where
  members : List (Program α)
  state : σ
  events : List Event

namespace Crowd

variable {α σ : Type}

/-- Programs that are all about to begin. -/
def gather (members : List (Program α)) (s : σ) : Crowd α σ := ⟨members, s, []⟩

/-- Lets one member take a step. -/
def turn (store : Store σ) (c : Crowd α σ) (i : Nat) : Crowd α σ :=
  match c.members[i]? with
  | none => c
  | some p =>
    let after := p.advance store c.state
    ⟨c.members.set i after.program, after.state, c.events ++ after.events⟩

/-- Lets members take steps in the order of a schedule. -/
def run (store : Store σ) (c : Crowd α σ) (schedule : List Nat) : Crowd α σ :=
  schedule.foldl (turn store) c

@[simp] theorem run_nil (store : Store σ) (c : Crowd α σ) : c.run store [] = c := rfl

@[simp] theorem run_cons (store : Store σ) (c : Crowd α σ) (i : Nat) (schedule : List Nat) :
    c.run store (i :: schedule) = (c.turn store i).run store schedule := rfl

/-- No turn adds or removes a member. -/
@[simp] theorem length_turn (store : Store σ) (c : Crowd α σ) (i : Nat) :
    (c.turn store i).members.length = c.members.length := by
  unfold turn
  split <;> simp

end Crowd

end LinkLedger
