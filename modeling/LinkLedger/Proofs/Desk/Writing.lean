import LinkLedger.Proofs.Desk.Runs
import LinkLedger.Proofs.Store.Additions

/-!
# What requests write

A program that only looks things up leaves what keeps the links as it is (`Program.LooksUp.run`).
Making a link is the one thing that does more: **`Desk.Made.of_make`** lists what a request for a
link comes to, whatever is kept and whatever faults there are, and in no case is a link added and
the request refused.
-/

set_option autoImplicit false

namespace LinkLedger

/-! ## Questions through the layer -/

def Call.isLookUp : Call → Bool
  | .findByUrl _ | .get _ => true
  | .insert _ => false

namespace Backing

theorem lookUp_state (call : Call) (h : call.isLookUp = true) (b : Backing) :
    (store.answer call b).2 = b := by
  cases call with
  | insert url => cases h
  | findByUrl url => cases b <;> rfl
  | get id => cases b <;> rfl

theorem lookUp_faulty_state (call : Call) (h : call.isLookUp = true)
    (state : Backing × FaultPlan) : (store.faulty.answer call state).2.1 = state.1 :=
  Store.faulty_leaves (lookUp_state call h) state

theorem found_of_find_faulty (url : String) (state : Backing × FaultPlan) (id : LinkId)
    (found : (store.faulty.answer (.findByUrl url) state).1 = .ok (some id)) :
    (store.answer (.findByUrl url) state.1).1 = .ok (some id) :=
  store.of_faulty_answer_eq_ok (.findByUrl url) found (by simp [Call.nothing?])

theorem insert_faulty_fails_or_adds (url : String) (state : Backing × FaultPlan) :
    (∃ failure, (store.faulty.answer (.insert url) state).1 = .error failure ∧
      (store.faulty.answer (.insert url) state).2.1 = state.1) ∨
    ∃ id, (store.faulty.answer (.insert url) state).1 = .ok id ∧
      state.1.Adds ⟨id, url⟩ (store.faulty.answer (.insert url) state).2.1 := by
  obtain ⟨later, answer | ⟨failure, answer⟩ | ⟨outcome, nothing, -⟩⟩ :=
    store.faulty_answer_cases (.insert url) state
  · rw [answer]
    rcases insert_fails_or_adds url state.1 with ⟨failure, inserted⟩ | ⟨id, after, inserted, adds⟩
    · rw [inserted]
      exact .inl ⟨failure, rfl, rfl⟩
    · rw [inserted]
      exact .inr ⟨id, rfl, adds⟩
  · rw [answer]
    exact .inl ⟨failure, rfl, rfl⟩
  · cases nothing

end Backing

/-! ## Programs that look up -/

namespace Program

variable {α β : Type}

/-- Whatever the program is answered, it asks for nothing but look-ups. -/
def LooksUp : Program α → Prop
  | done _ => True
  | report _ next => next.LooksUp
  | ask call next => call.isLookUp = true ∧ ∀ answer, (next answer).LooksUp

theorem LooksUp.bind {p : Program α} {f : α → Program β} (h : p.LooksUp)
    (rest : ∀ a, (f a).LooksUp) : (p.bind f).LooksUp := by
  induction p with
  | done a => exact rest a
  | report e next ih => exact ih h
  | ask call next ih => exact ⟨h.1, fun answer => ih answer (h.2 answer)⟩

/-- **Looking up changes nothing.** -/
theorem LooksUp.run {p : Program α} (h : p.LooksUp) (state : Backing × FaultPlan) :
    (p.run Backing.store.faulty state).state.1 = state.1 := by
  induction p generalizing state with
  | done a => rfl
  | report e next ih => exact ih h state
  | ask call next ih =>
    exact (ih _ (h.2 _) _).trans (Backing.lookUp_faulty_state call h.1 state)

end Program

/-! ## Requests for links -/

namespace Desk

variable {before after : Backing} {url : String} {id : LinkId}

theorem lookUpWinner_looksUp (url : String) : (lookUpWinner url).LooksUp := by
  refine ⟨rfl, fun answer => ?_⟩
  rcases answer with failure | _ | id <;> exact trivial

theorem resolve_looksUp (id : LinkId) : (resolve id).LooksUp := by
  refine ⟨rfl, fun answer => ?_⟩
  rcases answer with failure | _ | link <;> exact trivial

/-- What a request for the link to a url comes to, and what is kept afterwards. -/
inductive Made (before : Backing) (url : String) : Except Refusal LinkId → Backing → Prop
  | refused (refusal : Refusal) : Made before url (.error refusal) before
  /-- The url has a link. -/
  | known {id : LinkId} (found : (Backing.store.answer (.findByUrl url) before).1 = .ok (some id)) :
    Made before url (.ok id) before
  /-- It gets one. -/
  | added {id : LinkId} {after : Backing} (adds : before.Adds ⟨id, url⟩ after) :
    Made before url (.ok id) after

theorem Made.found (h : Made before url (.ok id) after) :
    (Backing.store.answer (.findByUrl url) after).1 = .ok (some id) := by
  cases h with
  | known found => exact found
  | added adds => exact adds.found

theorem Made.of_lookUpWinner (url : String) (state : Backing × FaultPlan) :
    Made state.1 url ((lookUpWinner url).run Backing.store.faulty state).value state.1 := by
  have there := Backing.found_of_find_faulty url state
  simp only [lookUpWinner, Program.run_ask]
  generalize Backing.store.faulty.answer (.findByUrl url) state = answered at there
  obtain ⟨answer, later⟩ := answered
  rcases answer with failure | _ | id
  · exact .refused _
  · exact .refused _
  · exact .known (there id rfl)

theorem Made.of_insertNew (url : String) (state : Backing × FaultPlan) :
    Made state.1 url ((insertNew url).run Backing.store.faulty state).value
      ((insertNew url).run Backing.store.faulty state).state.1 := by
  have inserted := Backing.insert_faulty_fails_or_adds url state
  simp only [insertNew, Program.run_ask]
  generalize Backing.store.faulty.answer (.insert url) state = answered at inserted
  obtain ⟨answer, later⟩ := answered
  obtain ⟨failure, rfl, same⟩ | ⟨id, rfl, adds⟩ := inserted
  · dsimp only at same ⊢
    by_cases lost : failure.kind = .conflict
    · have winner := Made.of_lookUpWinner url later
      rw [if_pos lost]
      show Made state.1 url ((lookUpWinner url).run Backing.store.faulty later).value
        ((lookUpWinner url).run Backing.store.faulty later).state.1
      rwa [(lookUpWinner_looksUp url).run later, ← same]
    · rw [if_neg lost, ← same]
      exact .refused _
  · exact .added adds

/-- **What a request for a link comes to**, whatever is kept and whatever the layer does. -/
theorem Made.of_make (url : String) (state : Backing × FaultPlan) :
    Made state.1 url ((make url).run Backing.store.faulty state).value
      ((make url).run Backing.store.faulty state).state.1 := by
  rcases checkUrl_cases url with ok | ⟨fault, bad⟩
  · have there := Backing.found_of_find_faulty url state
    have same := Backing.lookUp_faulty_state (.findByUrl url) rfl state
    simp only [make, ok, Program.run_ask]
    generalize Backing.store.faulty.answer (.findByUrl url) state = answered at there same
    obtain ⟨answer, later⟩ := answered
    dsimp only at same
    rcases answer with failure | _ | id
    · rw [← same]
      exact .refused _
    · rw [← same]
      exact Made.of_insertNew url later
    · show Made state.1 url (.ok id) later.1
      rw [same]
      exact .known (there id rfl)
  · rw [make_run_refused _ _ bad]
    exact .refused _

/-- Where the url is found, its id is given. -/
theorem make_run_of_found {σ : Type} {store : Store σ} {s : σ} (ok : checkUrl url = .ok ())
    (found : (store.answer (.findByUrl url) s).1 = .ok (some id)) :
    ((make url).run store s).value = .ok id := by
  simp only [make, ok, Program.run_ask, found]
  rfl

/-- **Asking again changes nothing**: a second request for the link to a url comes to what the first
    one came to. -/
theorem make_again (url : String) (b : Backing) :
    ((make url).run Backing.store ((make url).run Backing.store b).state).value =
      ((make url).run Backing.store b).value := by
  have made := Made.of_make url (b, .none)
  rw [Program.run_faulty] at made
  dsimp only at made
  generalize value : ((make url).run Backing.store b).value = result at made ⊢
  generalize ((make url).run Backing.store b).state = after at made ⊢
  cases made with
  | refused refusal => exact value
  | known found => exact value
  | added adds =>
    rcases checkUrl_cases url with ok | ⟨fault, bad⟩
    · exact make_run_of_found ok adds.found
    · rw [make_run_refused _ _ bad] at value
      cases value

end Desk

end LinkLedger
