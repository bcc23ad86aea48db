import LinkLedger.Proofs.Gateway.Handling
import LinkLedger.Proofs.Store.Growth
import LinkLedger.Proofs.Store.Reachable

/-!
# What a session has given out

The marks of a run can be read off what came of its steps (`Session.history`). Requests report every
link that they make: each program of this library announces what it inserted before it asks anything
else (`Program.Announces`). So **a run that does not drop the table makes it grow by its history**
(`Session.run_grows`), and what holds of growing tables holds of what clients have seen.
-/

set_option autoImplicit false

namespace LinkLedger

open LinkLedger.Http LinkLedger.Gateway

/-! ## Reading marks off -/

/-- The mark of the link that an event reports. -/
def Event.mark? : Event → Option Mark
  | .created id url => some (.issued id url)
  | _ => none

/-- The mark of the link that an answer gives. -/
def Call.marks : (call : Call) → call.Outcome → List Mark
  | .insert url, .ok id => [.issued id url]
  | _, _ => []

/-- The marks of a step: the link that was inserted or the row that was planted, or else the links
    that were reported. -/
def Step.marks (step : Step) (came : Outcome × List Event) : List Mark :=
  match step, came.1 with
  | .ask (.insert url), .inserted (.ok id) => [.issued id url]
  | .plant key _, .done (.ok ()) => [.planted key]
  | _, _ => came.2.filterMap Event.mark?

/-- The marks of a run, as they can be read off what came of its steps. -/
def Session.history (s : Session) (steps : List Step) : List Mark :=
  (steps.zip (s.run steps).2).flatMap fun (step, came) => step.marks came

/-! ## Programs announce what they insert -/

namespace Program

variable {α β : Type}

/-- Whatever the program is answered, it reports the links that it is given, each before it asks
    again. The marks are those of a link that is yet to be reported. -/
def Announces : List Mark → Program α → Prop
  | due, done _ => due = []
  | due, report e next =>
    match e.mark? with
    | some mark => due = [mark] ∧ next.Announces []
    | none => next.Announces due
  | due, ask call next => due = [] ∧ ∀ answer, (next answer).Announces (call.marks answer)

theorem Announces.bind {p : Program α} {f : α → Program β} :
    ∀ {due : List Mark}, p.Announces due → (∀ a, (f a).Announces []) →
      (p.bind f).Announces due := by
  induction p with
  | done a =>
    rintro due rfl h
    exact h a
  | report e next ih =>
    intro due hp h
    simp only [Program.bind, Announces] at hp ⊢
    cases hmark : e.mark? with
    | some mark =>
      rw [hmark] at hp
      exact ⟨hp.1, ih hp.2 h⟩
    | none =>
      rw [hmark] at hp
      exact ih hp h
  | ask call next ih =>
    rintro due ⟨rfl, hp⟩ h
    exact ⟨rfl, fun answer => ih answer (hp answer) h⟩

end Program

namespace Desk

theorem lookUpWinner_announces (url : String) : (lookUpWinner url).Announces [] := by
  refine ⟨rfl, fun answer => ?_⟩
  rcases answer with failure | _ | id <;> exact rfl

theorem make_announces (url : String) : (make url).Announces [] := by
  unfold make
  cases checkUrl url with
  | error fault => exact rfl
  | ok accepted =>
    refine ⟨rfl, fun answer => ?_⟩
    rcases answer with failure | _ | id
    · exact rfl
    · refine ⟨rfl, fun answer => ?_⟩
      cases answer with
      | ok id => exact ⟨rfl, rfl⟩
      | error failure =>
        show Program.Announces [] (if failure.kind = .conflict then _ else _)
        split
        · exact lookUpWinner_announces url
        · exact rfl
    · exact rfl

theorem resolve_announces (id : LinkId) : (resolve id).Announces [] := by
  refine ⟨rfl, fun answer => ?_⟩
  rcases answer with failure | _ | link <;> exact rfl

end Desk

namespace Gateway

theorem refuse_announces (refusal : Refusal) : (refuse refusal).Announces [] := by
  cases refusal <;> exact rfl

theorem respond_announces (base : Base) (r : Request) : (respond base r).Announces [] := by
  have answered : (answer base r).Announces [] := by
    have handled := Handling.of_answer base r
    generalize answer base r = p at handled ⊢
    have made : ∀ (url : String) (reply : Link → String → Reply),
        (make base url reply).Announces [] := by
      intro url reply
      refine (Desk.make_announces url).bind fun result => ?_
      cases result with
      | error refusal => exact refuse_announces refusal
      | ok id => exact rfl
    cases handled with
    | settled plain => exact rfl
    | linking => exact made _ _
    | creating => exact made _ _
    | displaying =>
      refine (Desk.resolve_announces _).bind fun result => ?_
      cases result with
      | error refusal => exact refuse_announces refusal
      | ok url => exact rfl
    | following =>
      refine (Desk.resolve_announces _).bind fun result => ?_
      cases result with
      | error refusal => exact refuse_announces refusal
      | ok url =>
        show Program.Announces [] (if isHeaderValue url then _ else _)
        split
        · exact rfl
        · exact refuse_announces _
  exact answered.bind fun reply => rfl

end Gateway

theorem makeAll_announces (urls : List String) : (makeAll urls).Announces [] := by
  induction urls with
  | nil => exact rfl
  | cons url urls ih =>
    refine (Desk.make_announces url).bind fun result => ?_
    exact ih.bind fun results => rfl

theorem leadBack_announces (made : List (String × LinkId)) : (leadBack made).Announces [] := by
  induction made with
  | nil => exact rfl
  | cons entry made ih =>
    refine (Desk.resolve_announces entry.2).bind fun result => ?_
    exact ih.bind fun back => rfl

theorem makeTogether_announces (urls : List String) : (makeTogether urls).Announces [] := by
  refine (makeAll_announces urls).bind fun results => ?_
  exact (leadBack_announces _).bind fun back => rfl

/-! ## Programs make the table grow -/

namespace Backing

variable {t : Table} {access : Access}

/-- **What an insertion can do to a table**: it fails and changes nothing, or it adds a row under
    the next key. -/
theorem insert_cases (t : Table) (access : Access) (url : String) :
    (∃ failure, store.answer (.insert url) (.database ⟨⟨some t⟩, access⟩) =
      (.error failure, .database ⟨⟨some t⟩, access⟩)) ∨
    (t.lastKey < maxKey ∧ store.answer (.insert url) (.database ⟨⟨some t⟩, access⟩) =
      (.ok (.ofNat (t.lastKey + 1)),
        .database ⟨⟨some (t.push (t.lastKey + 1) (.ofUrl url))⟩, access⟩)) := by
  have asked : store.answer (.insert url) (.database ⟨⟨some t⟩, access⟩) =
      ((Pool.insert ⟨⟨some t⟩, access⟩ url).1,
        .database (Pool.insert ⟨⟨some t⟩, access⟩ url).2) := rfl
  rw [asked]
  obtain ⟨failure, inserted, -⟩ | ⟨_, ⟨⟩, room, -, inserted⟩ :=
    Pool.insert_cases ⟨⟨some t⟩, access⟩ url
  · rw [inserted]
    exact .inl ⟨failure, rfl⟩
  · rw [inserted, t.push_lastKey_succ]
    exact .inr ⟨room, rfl⟩

theorem answer_grows (call : Call) (t : Table) (access : Access) :
    ∃ after, (store.answer call (.database ⟨⟨some t⟩, access⟩)).2 =
        .database ⟨⟨some after⟩, access⟩ ∧
      t.Grows (call.marks (store.answer call (.database ⟨⟨some t⟩, access⟩)).1) after := by
  cases call with
  | insert url =>
    obtain ⟨failure, answer⟩ | ⟨room, answer⟩ := insert_cases t access url
    · rw [answer]
      exact ⟨t, rfl, .same t⟩
    · rw [answer]
      exact ⟨_, rfl, .issue room (.same _)⟩
  | findByUrl url => exact ⟨t, rfl, .same t⟩
  | get id => exact ⟨t, rfl, .same t⟩

theorem faulty_answer_grows (call : Call) {state : Backing × FaultPlan}
    (table : state.1 = .database ⟨⟨some t⟩, access⟩) :
    ∃ after, (store.faulty.answer call state).2.1 = .database ⟨⟨some after⟩, access⟩ ∧
      t.Grows (call.marks (store.faulty.answer call state).1) after := by
  obtain ⟨later, answer | ⟨failure, answer⟩ | ⟨outcome, nothing, answer⟩⟩ :=
    store.faulty_answer_cases call state
  · rw [answer, table]
    exact answer_grows call t access
  · rw [answer]
    cases call <;> exact ⟨t, table, .same t⟩
  · rw [answer]
    cases call with
    | insert url => cases nothing
    | findByUrl url => exact ⟨t, table, .same t⟩
    | get id => exact ⟨t, table, .same t⟩

end Backing

/-- What keeps the links reports no links. -/
theorem Backing.remarks_faulty_mark? (call : Call) (state : Backing × FaultPlan) :
    (store.faulty.remarks call state).filterMap Event.mark? = [] := by
  have quiet : ∀ b : Backing, (store.remarks call b).filterMap Event.mark? = [] := by
    intro b
    cases b with
    | memory m => rfl
    | database p => rfl
    | closedServer => cases call <;> rfl
  simp only [Store.faulty]
  split
  · exact quiet _
  · split
    · exact quiet _
    · rfl

/-- **A program that announces makes the table grow by what it reports.** The table that it starts
    from may have grown by one link already, which is yet to be reported. -/
theorem Program.Announces.run {α : Type} {p : Program α} {access : Access} :
    ∀ {due : List Mark} {before t : Table} {state : Backing × FaultPlan}, p.Announces due →
      before.Grows due t → state.1 = .database ⟨⟨some t⟩, access⟩ →
      ∃ after, (p.run Backing.store.faulty state).state.1 = .database ⟨⟨some after⟩, access⟩ ∧
        before.Grows ((p.run Backing.store.faulty state).events.filterMap Event.mark?) after := by
  induction p with
  | done a =>
    rintro due before t state rfl grown table
    exact ⟨t, table, grown⟩
  | report e next ih =>
    intro due before t state announces grown table
    simp only [Announces] at announces
    cases hmark : e.mark? with
    | some mark =>
      rw [hmark] at announces
      obtain ⟨rfl, later⟩ := announces
      obtain ⟨after, there, more⟩ := ih later (.same t) table
      refine ⟨after, there, ?_⟩
      simpa [hmark] using grown.trans more
    | none =>
      rw [hmark] at announces
      obtain ⟨after, there, more⟩ := ih announces grown table
      exact ⟨after, there, by simpa [hmark] using more⟩
  | ask call next ih =>
    rintro due before t state ⟨rfl, announces⟩ grown table
    obtain ⟨between, there, answered⟩ := Backing.faulty_answer_grows call table
    obtain ⟨after, last, more⟩ := ih _ (announces _) (grown.trans answered) there
    refine ⟨after, last, ?_⟩
    simpa [List.filterMap_append, Backing.remarks_faulty_mark?] using more

/-! ## Runs make the table grow -/

namespace Table

theorem plant_cases (t : Table) (key : Int) (cell : Cell) :
    (∃ e, t.plant key cell = (.error e, t)) ∨ t.plant key cell = (.ok (), t.push key cell) := by
  unfold plant
  cases t.byKey? key with
  | some row => exact .inl ⟨_, rfl⟩
  | none =>
    cases t.byCell? cell with
    | some row => exact .inl ⟨_, rfl⟩
    | none => exact .inr rfl

end Table

theorem Step.marks_ask (call : Call) (outcome : call.Outcome) :
    (Step.ask call).marks (.ofAnswer call outcome, []) = call.marks outcome := by
  cases call with
  | insert url => cases outcome <;> rfl
  | findByUrl url => rfl
  | get id => rfl

/-- Work on a table fails and changes nothing, or does what the statement does. -/
theorem Backing.onTable_cases (t : Table) (access : Access)
    (statement : Table → Except SqlError Unit × Table) :
    (∃ failure, (database ⟨⟨some t⟩, access⟩).onTable statement =
      (.error failure, .database ⟨⟨some t⟩, access⟩)) ∨
    (database ⟨⟨some t⟩, access⟩).onTable statement =
      (Pool.outcome (statement t).1, .database ⟨⟨some (statement t).2⟩, access⟩) := by
  cases access with
  | ready => exact .inr rfl
  | readOnly => exact .inl ⟨_, rfl⟩
  | held => exact .inl ⟨_, rfl⟩
  | closed => exact .inl ⟨_, rfl⟩

namespace Session

variable {s : Session} {t : Table} {access : Access}

/-- **A step that does not drop the table makes it grow by its marks.** -/
theorem step_grows (table : s.backing = .database ⟨⟨some t⟩, access⟩) {step : Step}
    (lasting : step ≠ .dropTable) :
    ∃ after access', (s.step step).state.backing = .database ⟨⟨some after⟩, access'⟩ ∧
      t.Grows (step.marks ((s.step step).value, (s.step step).events)) after := by
  have request : ∀ {α : Type} {p : Program α} (outcome : α → Outcome), p.Announces [] →
      ∃ after access', (s.request p outcome).state.backing = .database ⟨⟨some after⟩, access'⟩ ∧
        t.Grows ((s.request p outcome).events.filterMap Event.mark?) after := by
    intro α p outcome announces
    have same : (s.backing, s.faults).1 = .database ⟨⟨some t⟩, access⟩ := table
    obtain ⟨after, there, grown⟩ := announces.run (.same t) same
    exact ⟨after, access, there, grown⟩
  cases step with
  | make url => exact request _ (Desk.make_announces url)
  | resolve id => exact request _ (Desk.resolve_announces id)
  | makeTogether urls => exact request _ (makeTogether_announces urls)
  | send sent => exact request _ (respond_announces s.base sent)
  | dropTable => exact absurd rfl lasting
  | size | plan kind fault => exact ⟨t, access, table, .same t⟩
  | ask call =>
    show ∃ after access', (Backing.store.answer call s.backing).2 = _ ∧
      t.Grows ((Step.ask call).marks (.ofAnswer call (Backing.store.answer call s.backing).1,
        Backing.store.remarks call s.backing)) after
    obtain ⟨after, there, grown⟩ := Backing.answer_grows call t access
    rw [table]
    exact ⟨after, access, there, Step.marks_ask call _ ▸ grown⟩
  | ensureTable =>
    simp only [Session.step, table]
    exact ⟨t, access, rfl, .same t⟩
  | plant key cell =>
    simp only [Session.step, table]
    obtain ⟨failure, worked⟩ | worked :=
      Backing.onTable_cases t access fun t => t.plant key cell
    · rw [worked]
      exact ⟨t, access, rfl, .same t⟩
    · rw [worked]
      obtain ⟨e, planted⟩ | planted := t.plant_cases key cell
      · rw [planted]
        exact ⟨t, access, rfl, .same t⟩
      · rw [planted]
        exact ⟨_, access, rfl, .plant (.same _)⟩
  | delete key =>
    simp only [Session.step, table]
    obtain ⟨failure, worked⟩ | worked :=
      Backing.onTable_cases t access fun t => (.ok (), t.delete key)
    · rw [worked]
      exact ⟨t, access, rfl, .same t⟩
    · rw [worked]
      exact ⟨_, access, rfl, .delete (.same _)⟩
  | close | hold | release | reopen =>
    simp only [Session.step, table]
    exact ⟨t, _, rfl, .same t⟩

theorem history_cons (s : Session) (step : Step) (more : List Step) :
    s.history (step :: more) =
      step.marks ((s.step step).value, (s.step step).events) ++
        (s.step step).state.history more := rfl

theorem history_append (s : Session) (first more : List Step) :
    s.history (first ++ more) = s.history first ++ (s.run first).1.history more := by
  induction first generalizing s with
  | nil => rfl
  | cons step first ih =>
    rw [List.cons_append, history_cons, history_cons, ih, List.append_assoc]
    rfl

/-- **A run that does not drop the table makes it grow by its history.** -/
theorem run_grows {steps : List Step} (lasting : ∀ step ∈ steps, step ≠ .dropTable) :
    ∀ {s : Session} {t : Table} {access : Access}, s.backing = .database ⟨⟨some t⟩, access⟩ →
      ∃ after access', (s.run steps).1.backing = .database ⟨⟨some after⟩, access'⟩ ∧
        t.Grows (s.history steps) after := by
  induction steps with
  | nil =>
    intro s t access table
    exact ⟨t, access, table, .same t⟩
  | cons first more ih =>
    intro s t access table
    obtain ⟨between, access', there, grown⟩ :=
      step_grows table (lasting first List.mem_cons_self)
    obtain ⟨after, access'', last, later⟩ :=
      ih (fun step hstep => lasting step (List.mem_cons_of_mem first hstep)) there
    rw [history_cons]
    exact ⟨after, access'', last, grown.trans later⟩

end Session

end LinkLedger
