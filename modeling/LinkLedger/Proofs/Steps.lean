import LinkLedger.Proofs.Store.Faults
import LinkLedger.Session

/-!
# What steps keep

A step of a session either runs a program against what keeps the links, through the layer of faults,
or it works on what keeps the links directly; `Step.work` is the second kind. So a property of what
keeps the links that no answer and no such work can break **is kept by every step and every run**
(`Session.step_keeps`, `Session.run_keeps`).
-/

set_option autoImplicit false

namespace LinkLedger

open LinkLedger.Gateway

/-- What a step does to what keeps the links, beside asking it. -/
def Step.work : Step → Backing → Backing
  | .ensureTable, b => b.ensureTable.2
  | .plant key cell, b => (b.onTable fun t => t.plant key cell).2
  | .delete key, b => (b.onTable fun t => (.ok (), t.delete key)).2
  | .dropTable, b => b.dropTable.2
  | .close, b => b.onPool fun p => { p with access := .closed }
  | .hold, b => b.onPool Pool.hold
  | .release, b => b.onPool Pool.release
  | .reopen, b => b.onPool Pool.reopen
  | _, b => b

/-- In memory there is nothing to work on. -/
theorem Step.work_memory (step : Step) (m : Indexes) : step.work (.memory m) = .memory m := by
  cases step <;> rfl

namespace Session

variable {P : Backing → Prop} {s : Session}

/-- **What no answer and no work on the store breaks, a step keeps.** -/
theorem step_keeps (answer : ∀ call b, P b → P (Backing.store.answer call b).2) {step : Step}
    (work : ∀ b, P b → P (step.work b)) (h : P s.backing) : P (s.step step).state.backing := by
  have request : ∀ {α : Type} (p : Program α) (outcome : α → Outcome),
      P (s.request p outcome).state.backing := fun p _ =>
    p.run_keeps (P := fun state : Backing × FaultPlan => P state.1) (Store.faulty_keeps answer) h
  cases step with
  | make _ | resolve _ | makeTogether _ | send _ => exact request _ _
  | ask call => exact answer call _ h
  | size | plan _ _ => exact h
  | ensureTable | plant _ _ | delete _ | dropTable | close | hold | release | reopen =>
    exact work _ h

/-- **And so does a run of such steps.** -/
theorem run_keeps (answer : ∀ call b, P b → P (Backing.store.answer call b).2) {steps : List Step}
    (work : ∀ step ∈ steps, ∀ b, P b → P (step.work b)) (h : P s.backing) :
    P (s.run steps).1.backing := by
  induction steps generalizing s with
  | nil => exact h
  | cons first more ih =>
    refine ih (fun step hstep => work step (List.mem_cons_of_mem first hstep)) ?_
    exact step_keeps answer (work first List.mem_cons_self) h

/-- The address of the gateway stays as it is. -/
theorem run_base (steps : List Step) (s : Session) : (s.run steps).1.base = s.base := by
  induction steps generalizing s with
  | nil => rfl
  | cons first more ih =>
    refine (ih _).trans ?_
    cases first <;> rfl

/-- Each step of a run is taken where the property still holds, and what came of it came of it
    there. -/
theorem step_of_run (answer : ∀ call b, P b → P (Backing.store.answer call b).2)
    {steps : List Step} (work : ∀ step ∈ steps, ∀ b, P b → P (step.work b)) (h : P s.backing) :
    ∀ taken ∈ steps.zip (s.run steps).2, taken.1 ∈ steps ∧ ∃ s' : Session, P s'.backing ∧
      taken.2 = ((s'.step taken.1).value, (s'.step taken.1).events) := by
  induction steps generalizing s with
  | nil => simp
  | cons first more ih =>
    intro taken htaken
    rcases List.mem_cons.mp htaken with rfl | later
    · exact ⟨List.mem_cons_self, s, h, rfl⟩
    · have kept := step_keeps answer (work first List.mem_cons_self) h
      obtain ⟨mem, came⟩ :=
        ih (fun step hstep => work step (List.mem_cons_of_mem first hstep)) kept taken later
      exact ⟨List.mem_cons_of_mem first mem, came⟩

end Session

end LinkLedger
