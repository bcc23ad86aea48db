import LinkLedger.Proofs.Runs
import LinkLedger.Store.Faults

/-!
# The layer of faults

Between a request and its store a layer may do three things to a question, and
`Store.faulty_answer_cases` tells them apart. Three things follow that hold of every plan or of none:
what every answer of a store keeps true, it keeps true behind the layer (`Store.faulty_keeps`), what
a question leaves as it is, it leaves so there too (`Store.faulty_leaves`), and a layer with nothing
planned is as good as none (`Program.run_faulty`).
-/

set_option autoImplicit false

namespace LinkLedger

variable {α σ : Type}

namespace Store

variable (store : Store σ) (call : Call)

/-- **What the layer can do with a question**: let it through, fail, or say that nothing was found.
    Unless it lets the question through, the store stays as it is. -/
theorem faulty_answer_cases (state : σ × FaultPlan) :
    ∃ later, store.faulty.answer call state =
        ((store.answer call state.1).1, (store.answer call state.1).2, later) ∨
      (∃ failure, store.faulty.answer call state = (call.failed failure, state.1, later)) ∨
      ∃ outcome, call.nothing? = some outcome ∧
        store.faulty.answer call state = (outcome, state.1, later) := by
  cases hqueue : state.2.queue call.kind with
  | nil => exact ⟨state.2, .inl (by simp [faulty, hqueue])⟩
  | cons fault later =>
    refine ⟨state.2.withQueue call.kind later, ?_⟩
    cases fault with
    | pass => exact .inl (by simp [faulty, hqueue, answerUnder])
    | fail failure => exact .inr (.inl ⟨failure, by simp [faulty, hqueue, answerUnder]⟩)
    | miss =>
      cases hnothing : call.nothing? with
      | none => exact .inl (by simp [faulty, hqueue, answerUnder, hnothing])
      | some outcome =>
        exact .inr (.inr ⟨outcome, rfl, by simp [faulty, hqueue, answerUnder, hnothing]⟩)

/-- **What the layer lets be found, the store has found.** -/
theorem of_faulty_answer_eq_ok {state : σ × FaultPlan} {found : call.Answer}
    (h : (store.faulty.answer call state).1 = .ok found)
    (something : call.nothing? ≠ some (.ok found)) : (store.answer call state.1).1 = .ok found := by
  obtain ⟨later, answer | ⟨failure, answer⟩ | ⟨outcome, nothing, answer⟩⟩ :=
    store.faulty_answer_cases call state
  · rwa [answer] at h
  · rw [answer] at h
    cases h
  · rw [answer] at h
    exact absurd (nothing.trans (congrArg some h)) something

/-- What a question leaves as it is, it leaves so behind the layer. -/
theorem faulty_leaves {store : Store σ} {call : Call} (leaves : ∀ s, (store.answer call s).2 = s)
    (state : σ × FaultPlan) : (store.faulty.answer call state).2.1 = state.1 := by
  obtain ⟨later, answer | ⟨failure, answer⟩ | ⟨outcome, -, answer⟩⟩ :=
    store.faulty_answer_cases call state
  · rw [answer]
    exact leaves state.1
  · rw [answer]
  · rw [answer]

theorem faulty_answer_of_used_up {plan : FaultPlan} (h : plan.queue call.kind = []) (s : σ) :
    store.faulty.answer call (s, plan) =
      ((store.answer call s).1, (store.answer call s).2, plan) := by
  simp [faulty, h]

theorem faulty_remarks_of_used_up {plan : FaultPlan} (h : plan.queue call.kind = []) (s : σ) :
    store.faulty.remarks call (s, plan) = store.remarks call s := by
  simp [faulty, h]

/-- The layer reports nothing of its own. -/
theorem remarks_of_faulty {state : σ × FaultPlan} {e : Event}
    (h : e ∈ store.faulty.remarks call state) : e ∈ store.remarks call state.1 := by
  simp only [faulty] at h
  split at h
  · exact h
  · split at h
    · exact h
    · cases h

theorem faulty_keeps {store : Store σ} {P : σ → Prop}
    (keeps : ∀ call s, P s → P (store.answer call s).2) (call : Call) (state : σ × FaultPlan)
    (h : P state.1) : P (store.faulty.answer call state).2.1 := by
  obtain ⟨later, answer | ⟨failure, answer⟩ | ⟨outcome, -, answer⟩⟩ :=
    store.faulty_answer_cases call state
  · rw [answer]
    exact keeps call state.1 h
  · rw [answer]
    exact h
  · rw [answer]
    exact h

end Store

/-- A layer with nothing planned is as good as none. -/
theorem Program.run_faulty (store : Store σ) (p : Program α) (s : σ) :
    p.run store.faulty (s, .none) =
      ⟨(p.run store s).value, ((p.run store s).state, .none), (p.run store s).events⟩ := by
  induction p generalizing s with
  | done a => rfl
  | report e next ih => simp [ih]
  | ask call next ih =>
    have usedUp : FaultPlan.none.queue call.kind = [] := by cases call <;> rfl
    simp only [Program.run_ask, store.faulty_answer_of_used_up call usedUp,
      store.faulty_remarks_of_used_up call usedUp, ih]

end LinkLedger
