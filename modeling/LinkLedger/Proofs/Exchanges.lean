import LinkLedger.Program

/-!
# What is exchanged with a store

A run is a number of exchanges with a store: questions and their answers. Two things can be said of
a program by looking at its tree of questions alone.

* `Program.Traces P p`: however the questions are answered, `P` holds of the exchanges, of the
  errors that are reported, and of the value. **`Traces.run` says so of every run**, if the store
  itself reports no errors.
* `Program.Veiled R p q`: the two programs ask the same questions, and end with values related by
  `R`, even if wherever the one meets a failure the other meets a different one. So **two stores
  that answer a run alike, failures apart, cannot be told apart by more than `R`**
  (`Veiled.run`).
-/

set_option autoImplicit false

namespace LinkLedger

variable {α β γ δ σ τ : Type}

structure Exchange where
  call : Call
  answer : call.Outcome

def errorsOf (events : List Event) : List Event := events.filter fun e => e.level = .error

theorem errorsOf_append (first more : List Event) :
    errorsOf (first ++ more) = errorsOf first ++ errorsOf more := List.filter_append ..

/-- A store whose own reports are no errors. -/
def Store.Discreet (store : Store σ) : Prop :=
  ∀ call s, ∀ e ∈ store.remarks call s, e.level ≠ .error

theorem Store.Discreet.errorsOf_remarks {store : Store σ} (h : store.Discreet) (call : Call) (s : σ) :
    errorsOf (store.remarks call s) = [] :=
  List.filter_eq_nil_iff.mpr fun e he => by simpa using h call s e he

namespace Program

/-- The exchanges of a run, in order. -/
def exchanges (store : Store σ) : Program α → σ → List Exchange
  | done _, _ => []
  | report _ next, s => exchanges store next s
  | ask call next, s =>
    ⟨call, (store.answer call s).1⟩ ::
      exchanges store (next (store.answer call s).1) (store.answer call s).2

/-! ## What every run has in common -/

/-- However the questions are answered, the exchanges, the reported errors and the value satisfy
    `P`. -/
def Traces (P : List Exchange → List Event → α → Prop) : Program α → Prop
  | done a => P [] [] a
  | report e next => next.Traces fun exchanges errors a => P exchanges (errorsOf [e] ++ errors) a
  | ask call next =>
    ∀ answer, (next answer).Traces fun exchanges errors a => P (⟨call, answer⟩ :: exchanges) errors a

theorem Traces.run {P : List Exchange → List Event → α → Prop} {p : Program α} (h : p.Traces P)
    {store : Store σ} (quiet : store.Discreet) (s : σ) :
    P (p.exchanges store s) (errorsOf (p.run store s).events) (p.run store s).value := by
  induction p generalizing P s with
  | done a => exact h
  | report e next ih =>
    show P _ (errorsOf ([e] ++ (next.run store s).events)) _
    rw [errorsOf_append]
    exact ih h s
  | ask call next ih =>
    rw [run_ask, errorsOf_append, quiet.errorsOf_remarks, List.nil_append]
    exact ih _ (h _) _

/-- A program that goes on where another is done goes on from its exchanges and errors. -/
theorem Traces.bind {P : List Exchange → List Event → α → Prop}
    {Q : List Exchange → List Event → β → Prop} {p : Program α} (h : p.Traces P)
    {f : α → Program β} (rest : ∀ first reported a, P first reported a →
      (f a).Traces fun exchanges errors b => Q (first ++ exchanges) (reported ++ errors) b) :
    (p.bind f).Traces Q := by
  induction p generalizing P Q with
  | done a => exact rest [] [] a h
  | report e next ih =>
    refine ih h fun first reported a ha => ?_
    simpa only [List.append_assoc] using rest first (errorsOf [e] ++ reported) a ha
  | ask call next ih =>
    exact fun answer => ih answer (h answer) fun first reported a ha =>
      rest (⟨call, answer⟩ :: first) reported a ha

end Program

/-! ## Answers that differ in failures only -/

/-- Two answers to a question that are the same, or both failures; that of an insertion is a conflict
    in both or in neither. -/
def Call.Alike : (call : Call) → call.Outcome → call.Outcome → Prop
  | .insert _, .error f, .error g => f.kind = .conflict ↔ g.kind = .conflict
  | .findByUrl _, .error _, .error _ | .get _, .error _, .error _ => True
  | _, .ok a, .ok b => a = b
  | _, _, _ => False

instance (call : Call) (x y : call.Outcome) : Decidable (call.Alike x y) :=
  match call, x, y with
  | .insert _, .error f, .error g => inferInstanceAs (Decidable (f.kind = .conflict ↔ g.kind = .conflict))
  | .findByUrl _, .error _, .error _ | .get _, .error _, .error _ => .isTrue trivial
  | .insert _, .ok a, .ok b => inferInstanceAs (Decidable (a = b))
  | .findByUrl _, .ok a, .ok b => inferInstanceAs (Decidable (a = b))
  | .get _, .ok a, .ok b => inferInstanceAs (Decidable (a = b))
  | .insert _, .ok _, .error _ | .insert _, .error _, .ok _ => .isFalse id
  | .findByUrl _, .ok _, .error _ | .findByUrl _, .error _, .ok _ => .isFalse id
  | .get _, .ok _, .error _ | .get _, .error _, .ok _ => .isFalse id

namespace Program

/-- Of the questions of a run against the first store, the second answers each alike. -/
def AnsweredAlike (A : Store σ) (B : Store τ) : Program α → σ → τ → Prop
  | done _, _, _ => True
  | report _ next, s, t => next.AnsweredAlike A B s t
  | ask call next, s, t =>
    call.Alike (A.answer call s).1 (B.answer call t).1 ∧
      (next (A.answer call s).1).AnsweredAlike A B (A.answer call s).2 (B.answer call t).2

instance decidableAnsweredAlike (A : Store σ) (B : Store τ) :
    (p : Program α) → (s : σ) → (t : τ) → Decidable (p.AnsweredAlike A B s t)
  | done _, _, _ => .isTrue trivial
  | report _ next, s, t => decidableAnsweredAlike A B next s t
  | ask call next, s, t =>
    have := decidableAnsweredAlike A B (next (A.answer call s).1) (A.answer call s).2
      (B.answer call t).2
    inferInstanceAs (Decidable (_ ∧ _))

/-- The same questions in the same order, and values related by `R`, if only the questions are
    answered alike. What is reported in between may differ. -/
inductive Veiled (R : α → β → Prop) : Program α → Program β → Prop
  | done {a : α} {b : β} (related : R a b) : Veiled R (done a) (done b)
  | report {e e' : Event} {p : Program α} {q : Program β} (rest : Veiled R p q) :
    Veiled R (report e p) (report e' q)
  | ask {call : Call} {f : call.Outcome → Program α} {g : call.Outcome → Program β}
    (rest : ∀ x y, call.Alike x y → Veiled R (f x) (g y)) : Veiled R (ask call f) (ask call g)

theorem Veiled.bind {R : α → β → Prop} {S : γ → δ → Prop} {p : Program α} {q : Program β}
    (h : Veiled R p q) {f : α → Program γ} {g : β → Program δ}
    (rest : ∀ a b, R a b → Veiled S (f a) (g b)) : Veiled S (p.bind f) (q.bind g) := by
  induction h with
  | done related => exact rest _ _ related
  | report _ ih => exact .report ih
  | ask _ ih => exact .ask fun x y alike => ih x y alike

/-- **Stores that answer alike are told apart by no more than the values are.** -/
theorem Veiled.run {R : α → β → Prop} {p : Program α} {q : Program β} (h : Veiled R p q)
    {A : Store σ} {B : Store τ} {s : σ} {t : τ} (alike : p.AnsweredAlike A B s t) :
    R (p.run A s).value (q.run B t).value := by
  induction h generalizing s t with
  | done related => exact related
  | report _ ih => exact ih alike
  | ask _ ih => exact ih _ _ alike.1 alike.2

end Program

end LinkLedger
