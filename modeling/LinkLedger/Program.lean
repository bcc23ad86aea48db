import LinkLedger.Event
import LinkLedger.Link

/-!
# Requests as programs over a store

A request asks a store at most a few questions and reports events in between. Written as a tree of
questions, it can be run against any store, interrupted between any two questions, or run beside
others; what it does with an answer does not depend on where the answer comes from.

`Store` says how answers are given, `Program.run` puts the two together.
-/

set_option autoImplicit false

namespace LinkLedger

/-! ## Questions -/

/-- What a store can be asked. -/
inductive Call where
  /-- The id of the link to a url. -/
  | findByUrl (url : String)
  /-- A new link to a url. -/
  | insert (url : String)
  /-- The link with an id. -/
  | get (id : LinkId)
  deriving DecidableEq, Repr

/-- What a question is answered with, unless the store fails. -/
abbrev Call.Answer : Call → Type
  | .findByUrl _ => Option LinkId
  | .insert _ => LinkId
  | .get _ => Option Link

/-- An answer or a failure. -/
abbrev Call.Outcome (call : Call) : Type := Except StoreFailure call.Answer

/-- A failure as the outcome of a question. -/
def Call.failed (call : Call) (failure : StoreFailure) : call.Outcome := .error failure

/-! ## Programs -/

/-- A request in progress: finished, about to report an event, or waiting for an answer. -/
inductive Program (α : Type) : Type where
  | done (value : α)
  | report (event : Event) (next : Program α)
  | ask (call : Call) (next : call.Outcome → Program α)

namespace Program

variable {α β σ : Type}

/-- Goes on with `f` where the program is done. -/
def bind (p : Program α) (f : α → Program β) : Program β :=
  match p with
  | done a => f a
  | report e next => report e (next.bind f)
  | ask c next => ask c fun answer => (next answer).bind f

instance : Monad Program where
  pure := done
  bind := bind

@[simp] theorem bind_eq (p : Program α) (f : α → Program β) : p >>= f = p.bind f := rfl

@[simp] theorem pure_eq (a : α) : (pure a : Program α) = done a := rfl

/-- Reports one event. -/
def note (event : Event) : Program Unit := report event (done ())

end Program

/-! ## Stores -/

/-- A way to answer questions from a state. One question is answered at once: nothing happens
between its beginning and its end. -/
structure Store (σ : Type) where
  answer : (call : Call) → σ → call.Outcome × σ
  /-- What the store itself reports when it is asked in a state. -/
  remarks : Call → σ → List Event := fun _ _ => []

/-- The outcome of running a program: its value, the state of the store, and the events in
order. -/
structure Ran (α σ : Type) where
  value : α
  state : σ
  events : List Event

namespace Program

variable {α β σ : Type}

def run (store : Store σ) : Program α → σ → Ran α σ
  | done a, s => ⟨a, s, []⟩
  | report e next, s =>
    let ran := run store next s
    { ran with events := e :: ran.events }
  | ask call next, s =>
    let (answer, after) := store.answer call s
    let ran := run store (next answer) after
    { ran with events := store.remarks call s ++ ran.events }

/-! ## How running respects the parts of a program -/

@[simp] theorem run_done (store : Store σ) (a : α) (s : σ) : run store (done a) s = ⟨a, s, []⟩ :=
  rfl

@[simp] theorem run_report (store : Store σ) (e : Event) (next : Program α) (s : σ) :
    run store (report e next) s =
      ⟨(run store next s).value, (run store next s).state, e :: (run store next s).events⟩ :=
  rfl

@[simp] theorem run_ask (store : Store σ) (call : Call) (next : call.Outcome → Program α) (s : σ) :
    run store (ask call next) s =
      ⟨(run store (next (store.answer call s).1) (store.answer call s).2).value,
        (run store (next (store.answer call s).1) (store.answer call s).2).state,
        store.remarks call s ++
          (run store (next (store.answer call s).1) (store.answer call s).2).events⟩ :=
  rfl

/-- Running two programs in a row runs the second where the first left the store. -/
theorem run_bind (store : Store σ) (p : Program α) (f : α → Program β) (s : σ) :
    run store (p.bind f) s =
      ⟨(run store (f (run store p s).value) (run store p s).state).value,
        (run store (f (run store p s).value) (run store p s).state).state,
        (run store p s).events ++ (run store (f (run store p s).value) (run store p s).state).events⟩
    := by
  induction p generalizing s with
  | done a => simp [bind]
  | report e next ih => simp [bind, ih]
  | ask call next ih => simp [bind, run, ih, List.append_assoc]

end Program

end LinkLedger
