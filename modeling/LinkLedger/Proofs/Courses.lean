import LinkLedger.Proofs.Exchanges
import LinkLedger.Proofs.Store.Faults

/-!
# Courses of a program

However its questions are answered, a program takes one of its courses (`Program.Course`): exchanges
with a store, events that it reports itself, and a value in the end. **Every run is a course**
(`Course.of_run`), and what the store reports beside it can be left out if it is told apart from what
the program says.

What a course leaves behind can be read off its exchanges alone. A store keeps links if an insertion
that succeeds puts one more link at the end and nothing else changes them (`Store.Keeps`); then
**what a run adds is what its exchanges added, in their order** (`Store.Keeps.run`), and a layer of
faults does not change that.
-/

set_option autoImplicit false

namespace LinkLedger

variable {α β σ : Type}

/-! ## Courses -/

namespace Program

/-- A course that a program can take: its exchanges, the events that it reports, and its value. -/
inductive Course : Program α → List Exchange → List Event → α → Prop
  | done (a : α) : Course (done a) [] [] a
  | report {e : Event} {next : Program α} {exchanges : List Exchange} {events : List Event} {a : α}
    (rest : Course next exchanges events a) : Course (report e next) exchanges (e :: events) a
  | ask {call : Call} {next : call.Outcome → Program α} (answer : call.Outcome)
    {exchanges : List Exchange} {events : List Event} {a : α}
    (rest : Course (next answer) exchanges events a) :
    Course (ask call next) (⟨call, answer⟩ :: exchanges) events a

/-- **Every run is a course.** The events are those of the program, if those of the store are not
    heard. -/
theorem Course.of_run {store : Store σ} {heard : Event → Bool}
    (silent : ∀ call s, ∀ e ∈ store.remarks call s, heard e = false) (p : Program α) (s : σ) :
    ∃ events, p.Course (p.exchanges store s) events (p.run store s).value ∧
      (p.run store s).events.filter heard = events.filter heard := by
  induction p generalizing s with
  | done a => exact ⟨[], .done a, rfl⟩
  | report e next ih =>
    obtain ⟨events, course, same⟩ := ih s
    refine ⟨e :: events, .report course, ?_⟩
    rw [run_report, List.filter_cons, List.filter_cons, same]
  | ask call next ih =>
    obtain ⟨events, course, same⟩ := ih (store.answer call s).1 (store.answer call s).2
    have unheard : (store.remarks call s).filter heard = [] :=
      List.filter_eq_nil_iff.mpr fun e he => by simp [silent call s e he]
    refine ⟨events, .ask _ course, ?_⟩
    rw [run_ask, List.filter_append, unheard, List.nil_append, same]

/-- Putting the value into another form adds nothing to a course. -/
theorem Course.of_map {p : Program α} {f : α → β} {exchanges : List Exchange}
    {events : List Event} {b : β} (h : (p.bind fun a => .done (f a)).Course exchanges events b) :
    ∃ a, p.Course exchanges events a ∧ f a = b := by
  induction p generalizing exchanges events with
  | done a =>
    cases h
    exact ⟨a, .done a, rfl⟩
  | report e next ih =>
    cases h with
    | report rest =>
      obtain ⟨a, course, same⟩ := ih rest
      exact ⟨a, .report course, same⟩
  | ask call next ih =>
    cases h with
    | ask answer rest =>
      obtain ⟨a, course, same⟩ := ih answer rest
      exact ⟨a, .ask answer course, same⟩

end Program

/-! ## What is added -/

/-- The link that an exchange added, if it added one. -/
def Exchange.added? : Exchange → Option Link
  | ⟨.insert url, .ok id⟩ => some ⟨id, url⟩
  | _ => none

/-- A store that keeps links, oldest first: an insertion that succeeds adds one at the end, and
    nothing else changes them. -/
def Store.Keeps (store : Store σ) (links : σ → List Link) : Prop :=
  ∀ call s, links (store.answer call s).2 =
    links s ++ (Exchange.mk call (store.answer call s).1).added?.toList

namespace Store.Keeps

variable {store : Store σ} {links : σ → List Link}

/-- **What a run adds, its exchanges added.** -/
theorem run (h : store.Keeps links) (p : Program α) (s : σ) :
    links (p.run store s).state = links s ++ (p.exchanges store s).filterMap Exchange.added? := by
  induction p generalizing s with
  | done a => exact (List.append_nil (links s)).symm
  | report e next ih => exact ih s
  | ask call next ih =>
    rw [Program.run_ask, ih, h call s, List.append_assoc, Program.exchanges, List.filterMap_cons]
    cases (Exchange.mk call (store.answer call s).1).added? <;> rfl

/-- Failures and look-ups that find nothing add nothing. -/
theorem faulty (h : store.Keeps links) : store.faulty.Keeps fun state => links state.1 := by
  intro call state
  obtain ⟨later, answer | ⟨failure, answer⟩ | ⟨outcome, nothing, answer⟩⟩ :=
    store.faulty_answer_cases call state
  · rw [answer]
    exact h call state.1
  · rw [answer]
    cases call <;> exact (List.append_nil (links state.1)).symm
  · rw [answer]
    cases call with
    | insert url => cases nothing
    | findByUrl url => exact (List.append_nil (links state.1)).symm
    | get id => exact (List.append_nil (links state.1)).symm

end Store.Keeps

end LinkLedger
