import LinkLedger.Program

/-!
# A store behind a faulty layer

Between a request and its store a layer may interfere: it can hide a link from a look-up, let the
question through, or answer with a failure of its own without asking the store. What it does is
laid down in advance, one queue for each kind of question; when a queue is empty, questions pass.
-/

set_option autoImplicit false

namespace LinkLedger

/-- What the layer does with one question. -/
inductive Fault where
  /-- It says that nothing was found. An insertion finds nothing in any case, so it passes. -/
  | miss
  | pass
  | fail (failure : StoreFailure)
  deriving DecidableEq, Repr

/-- The kinds of questions. -/
inductive CallKind where
  | findByUrl
  | insert
  | get
  deriving DecidableEq, Repr

def Call.kind : Call → CallKind
  | .findByUrl _ => .findByUrl
  | .insert _ => .insert
  | .get _ => .get

/-- What the layer is going to do, question by question. -/
structure FaultPlan where
  findByUrl : List Fault
  insert : List Fault
  get : List Fault
  deriving DecidableEq, Repr

namespace FaultPlan

/-- A layer that lets everything through. -/
def none : FaultPlan := ⟨[], [], []⟩

def queue (plan : FaultPlan) : CallKind → List Fault
  | .findByUrl => plan.findByUrl
  | .insert => plan.insert
  | .get => plan.get

def withQueue (plan : FaultPlan) (kind : CallKind) (queue : List Fault) : FaultPlan :=
  match kind with
  | .findByUrl => { plan with findByUrl := queue }
  | .insert => { plan with insert := queue }
  | .get => { plan with get := queue }

/-- Plans one more fault for a kind of question. -/
def push (plan : FaultPlan) (kind : CallKind) (fault : Fault) : FaultPlan :=
  plan.withQueue kind (plan.queue kind ++ [fault])

end FaultPlan

/-- The answer of a look-up that finds nothing; an insertion has no such answer. -/
def Call.nothing? : (call : Call) → Option call.Outcome
  | .findByUrl _ => some (.ok none)
  | .insert _ => none
  | .get _ => some (.ok none)

/-- Whether a question reaches the store under a fault. -/
def Fault.reaches (fault : Fault) (call : Call) : Bool :=
  match fault with
  | .pass => true
  | .fail _ => false
  | .miss => call.nothing?.isNone

/-- What a question is answered with under a fault. -/
def Store.answerUnder {σ : Type} (store : Store σ) (fault : Fault) (call : Call) (s : σ) :
    call.Outcome × σ :=
  match fault with
  | .pass => store.answer call s
  | .fail failure => (call.failed failure, s)
  | .miss =>
    match call.nothing? with
    | some outcome => (outcome, s)
    | none => store.answer call s

/-- A store behind a faulty layer. -/
def Store.faulty {σ : Type} (store : Store σ) : Store (σ × FaultPlan) where
  answer call state :=
    match state.2.queue call.kind with
    | [] =>
      let (outcome, s) := store.answer call state.1
      (outcome, s, state.2)
    | fault :: later =>
      let (outcome, s) := store.answerUnder fault call state.1
      (outcome, s, state.2.withQueue call.kind later)
  remarks call state :=
    match state.2.queue call.kind with
    | [] => store.remarks call state.1
    | fault :: _ => if fault.reaches call then store.remarks call state.1 else []

end LinkLedger
