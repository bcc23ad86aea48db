import LinkLedger.Proofs.Desk.Runs
import LinkLedger.Proofs.Store.History

/-!
# Ids last

An id that a request is given stands in a row of the table: the row was found or was just added
(`Desk.row_of_make`). From then on the id belongs to its url (`Table.Settled`), which is all that
look-ups depend on. So whatever rows are deleted, whatever is planted under other keys and however
often the file is opened again, **no id is ever given out twice**
(`Session.ids_are_never_reissued`).
-/

set_option autoImplicit false

namespace LinkLedger

open LinkLedger.Gateway

/-! ## Given ids stand in a row -/

section

variable {t : Table} {access : Access} {state : Backing × FaultPlan} {id : LinkId} {url : String}

theorem Backing.row_of_find (law : t.Lawful) (table : state.1 = .database ⟨⟨some t⟩, access⟩)
    (found : (store.faulty.answer (.findByUrl url) state).1 = .ok (some id)) :
    (Link.mk id url).row ∈ t.rows := by
  have answer := store.of_faulty_answer_eq_ok (.findByUrl url) found (by simp [Call.nothing?])
  rw [table] at answer
  have looked : Pool.findByUrl ⟨⟨some t⟩, access⟩ url = .ok (some id) :=
    Pool.outcome_eq_ok_iff.mp answer
  have works : Pool.obstacle? ⟨⟨some t⟩, access⟩ = none := (Pool.of_reading_eq_ok looked).1
  exact (Pool.findByUrl_eq_some_iff works rfl law id url).mp looked

/-- Through any faults an insertion fails and changes nothing, or it adds a row under the next
    key. -/
theorem Backing.insert_faulty_cases (table : state.1 = .database ⟨⟨some t⟩, access⟩)
    (url : String) :
    (∃ failure, (store.faulty.answer (.insert url) state).1 = .error failure ∧
      (store.faulty.answer (.insert url) state).2.1 = .database ⟨⟨some t⟩, access⟩) ∨
    (t.lastKey < maxKey ∧
      (store.faulty.answer (.insert url) state).1 = .ok (.ofNat (t.lastKey + 1)) ∧
      (store.faulty.answer (.insert url) state).2.1 =
        .database ⟨⟨some (t.push (t.lastKey + 1) (.ofUrl url))⟩, access⟩) := by
  obtain ⟨later, answer | ⟨failure, answer⟩ | ⟨outcome, nothing, answer⟩⟩ :=
    store.faulty_answer_cases (.insert url) state
  · rw [answer, table]
    obtain ⟨failure, inserted⟩ | ⟨room, inserted⟩ := insert_cases t access url
    · rw [inserted]
      exact .inl ⟨failure, rfl, rfl⟩
    · rw [inserted]
      exact .inr ⟨room, rfl, rfl⟩
  · rw [answer]
    exact .inl ⟨failure, rfl, table⟩
  · cases nothing

theorem Backing.find_faulty_state (url : String) (state : Backing × FaultPlan) :
    (store.faulty.answer (.findByUrl url) state).2.1 = state.1 :=
  Store.faulty_leaves (fun b => by cases b <;> rfl) state

namespace Desk

theorem row_of_lookUpWinner (law : t.Lawful) (table : state.1 = .database ⟨⟨some t⟩, access⟩)
    (given : ((lookUpWinner url).run Backing.store.faulty state).value = .ok id) :
    ((lookUpWinner url).run Backing.store.faulty state).state.1 =
        .database ⟨⟨some t⟩, access⟩ ∧ (Link.mk id url).row ∈ t.rows := by
  have find : (Backing.store.faulty.answer (.findByUrl url) state).1 = .ok (some id) →
      (Link.mk id url).row ∈ t.rows := Backing.row_of_find law table
  have after := Backing.find_faulty_state url state
  simp only [lookUpWinner, Program.run_ask] at given ⊢
  generalize Backing.store.faulty.answer (.findByUrl url) state = answered at given find after ⊢
  obtain ⟨answer, later⟩ := answered
  rcases answer with failure | _ | id'
  · cases given
  · cases given
  · cases given
    exact ⟨after.trans table, find rfl⟩

/-- **An id that a request is given stands in a row**, whatever faults there are. -/
theorem row_of_make (law : t.Lawful) (table : state.1 = .database ⟨⟨some t⟩, access⟩)
    (given : ((make url).run Backing.store.faulty state).value = .ok id) :
    ∃ after, ((make url).run Backing.store.faulty state).state.1 =
        .database ⟨⟨some after⟩, access⟩ ∧ (Link.mk id url).row ∈ after.rows := by
  rcases checkUrl_cases url with ok | ⟨fault, bad⟩
  · have find : (Backing.store.faulty.answer (.findByUrl url) state).1 = .ok (some id) →
        (Link.mk id url).row ∈ t.rows := Backing.row_of_find law table
    have found := Backing.find_faulty_state url state
    simp only [make, ok, Program.run_ask] at given ⊢
    generalize Backing.store.faulty.answer (.findByUrl url) state = answered at given find found ⊢
    obtain ⟨answer, later⟩ := answered
    have same : later.1 = .database ⟨⟨some t⟩, access⟩ := found.trans table
    rcases answer with failure | _ | id'
    · cases given
    · -- The url was not found, so an insertion follows.
      have inserted := Backing.insert_faulty_cases same url
      simp only [insertNew, Program.run_ask] at given ⊢
      generalize Backing.store.faulty.answer (.insert url) later = answered at given inserted ⊢
      obtain ⟨answer, last⟩ := answered
      obtain ⟨failure, rfl, unchanged⟩ | ⟨room, rfl, added⟩ := inserted
      · dsimp only at given ⊢
        by_cases lost : failure.kind = .conflict
        · rw [if_pos lost] at given ⊢
          exact ⟨t, row_of_lookUpWinner law unchanged given⟩
        · rw [if_neg lost] at given
          cases given
      · cases given
        refine ⟨_, added, Table.mem_push.mpr (.inr (Link.row_eq ?_ rfl))⟩
        simp [Table.toNat_next room]
    · cases given
      exact ⟨t, same, find rfl⟩
  · rw [make_run_refused _ _ bad] at given
    cases given

end Desk

end

/-! ## Giving out and resolving -/

namespace Step

/-- A step gives out an id for a url: a request for the link is answered with it, be the link new or
    not, or the link is made in the step. -/
def HandsOut (step : Step) (came : Outcome × List Event) (id : LinkId) (url : String) : Prop :=
  (step = .make url ∧ came.1 = .made (.ok id)) ∨ .issued id url ∈ step.marks came

/-- No step both makes a link and plants a row. -/
theorem planted_not_mem_marks {step : Step} {came : Outcome × List Event} {id : LinkId}
    {url : String} (issued : .issued id url ∈ step.marks came) (key : Int) :
    .planted key ∉ step.marks came := by
  have reported : ∀ e : Event, e.mark? ≠ some (.planted key) := by
    intro e
    cases e <;> simp [Event.mark?]
  unfold marks at issued ⊢
  split at issued
  · simp
  · simp at issued
  · simp [reported]

end Step

/-- What is found under an id that belongs to a url is that url or nothing. -/
theorem Pool.get_of_settled {t : Table} {id : LinkId} {url : String} (law : t.Lawful)
    (belongs : t.Settled id url) (access : Access) :
    ((∃ e, get ⟨⟨some t⟩, access⟩ id = .error e) ∧ obstacle? ⟨⟨some t⟩, access⟩ ≠ none) ∨
    get ⟨⟨some t⟩, access⟩ id = .ok none ∨
    get ⟨⟨some t⟩, access⟩ id = .ok (some ⟨id, url⟩) := by
  cases works : obstacle? ⟨⟨some t⟩, access⟩ with
  | none =>
    obtain ⟨-, answer⟩ | ⟨row, hrow, key, answer⟩ := get_cases works rfl law id
    · exact .inr (.inl answer)
    · rw [belongs.cell_eq row hrow key, Cell.url_ofUrl] at answer
      exact .inr (.inr answer)
  | some e =>
    -- An id beyond the keys is not looked for, connection or not.
    unfold get
    cases id.key? with
    | none => exact .inr (.inl rfl)
    | some key => exact .inl ⟨⟨e, by simp [reading, works]⟩, nofun⟩

namespace Session

/-- Nothing stands between a look-up by id and the table: no fault is planned for it, and there is a
    connection. -/
def IsClear (s : Session) : Prop :=
  s.faults.get = [] ∧ ∀ p, s.backing = .database p → p.obstacle? = none

variable {s : Session} {t : Table} {access : Access} {id : LinkId} {url : String}

theorem settled_of_handsOut (law : s.backing.Lawful)
    (table : s.backing = .database ⟨⟨some t⟩, access⟩) {step : Step} (signed : step.IsSigned)
    (lasting : step ≠ .dropTable)
    (given : step.HandsOut ((s.step step).value, (s.step step).events) id url) :
    ∃ after access', (s.step step).state.backing = .database ⟨⟨some after⟩, access'⟩ ∧
      t.Grows (step.marks ((s.step step).value, (s.step step).events)) after ∧
      after.Settled id url ∧ ((Link.mk id url).row ∈ after.rows ∨
        .issued id url ∈ step.marks ((s.step step).value, (s.step step).events)) := by
  have lawful : t.Lawful := by
    rw [table] at law
    exact law t rfl
  obtain ⟨after, access', there, grown⟩ := step_grows table lasting
  refine ⟨after, access', there, grown, ?_⟩
  rcases given with ⟨rfl, made⟩ | issued
  · -- The row of the id is in the table, and no other row has its key.
    have answered : ((Desk.make url).run Backing.store.faulty (s.backing, s.faults)).value =
        .ok id := by
      simpa [Session.step, request] using made
    have same : (s.backing, s.faults).1 = .database ⟨⟨some t⟩, access⟩ := table
    obtain ⟨_, there', hrow⟩ := Desk.row_of_make lawful same answered
    cases there'.symm.trans there
    have law' : (s.step (.make url)).state.backing.Lawful := lawful_step law signed
    rw [there] at law'
    have lawful' : after.Lawful := law' after rfl
    refine ⟨⟨?_, fun row hrow' key => ?_⟩, .inl hrow⟩
    · exact Int.ofNat_le.mp (lawful'.key_le _ hrow)
    · rw [List.inj_on_of_nodup_map lawful'.keys_nodup hrow' hrow key]
      rfl
  · exact ⟨grown.settled_of_issued lawful.key_le issued (Step.planted_not_mem_marks issued _),
      .inr issued⟩

/-- An id that belongs to a url leads to it or nowhere. -/
theorem resolve_of_settled (law : t.Lawful)
    (table : s.backing = .database ⟨⟨some t⟩, access⟩) (belongs : t.Settled id url) :
    (s.step (.resolve id)).value = .resolved (.ok url) ∨
    (s.step (.resolve id)).value = .resolved (.error (.notFound id)) ∨
    (∃ failure, (s.step (.resolve id)).value = .resolved (.error (.store failure))) ∧
      ¬ s.IsClear := by
  have value : (s.step (.resolve id)).value = .resolved (Desk.resolved id
      (Backing.store.faulty.answer (.get id) (s.backing, s.faults)).1) :=
    congrArg Outcome.resolved (Desk.resolve_run_value _ _ id)
  have looked : (Backing.store.answer (.get id) s.backing).1 =
      Pool.outcome (Pool.get ⟨⟨some t⟩, access⟩ id) := by
    rw [table]
    rfl
  have read := Pool.get_of_settled law belongs access
  rw [value]
  cases answer : (Backing.store.faulty.answer (.get id) (s.backing, s.faults)).1 with
  | error failure =>
    refine .inr (.inr ⟨⟨failure, rfl⟩, fun clear => ?_⟩)
    have usedUp : s.faults.queue (Call.get id).kind = [] := clear.1
    rw [Store.faulty_answer_of_used_up _ _ usedUp, looked] at answer
    obtain ⟨-, blocked⟩ | got | got := read
    · exact blocked (clear.2 _ table)
    · rw [got] at answer
      cases answer
    · rw [got] at answer
      cases answer
  | ok link? =>
    cases link? with
    | none => exact .inr (.inl rfl)
    | some link =>
      have found := Backing.store.of_faulty_answer_eq_ok (.get id) answer (by simp [Call.nothing?])
      rw [looked, Pool.outcome_eq_ok_iff] at found
      obtain ⟨⟨e, failed⟩, -⟩ | got | got := read
      · cases failed.symm.trans found
      · cases got.symm.trans found
      · cases got.symm.trans found
        exact .inl rfl

/-- **No id is ever given out twice.** A session begins with a new table, and then anything is done:
    requests, faults, rows planted under any keys, rows deleted, connections taken and closed, the
    file opened again; only the table is never dropped. Then in the whole run

    * every link gets an id that is greater than all ids of links and all keys of planted rows
      before it, be they deleted or not;
    * an id that a step gives out, for a new link or for one that is there, is that of a link or of
      a planted row that was marked by then;
    * and from then on it leads to the url that it was given out for, or to none at all, unless a
      row is planted under it. A store fails to tell only for a fault or for want of a
      connection. -/
theorem ids_are_never_reissued (base : Base) (before : List Step) (step : Step) (after : List Step)
    (lasting : ∀ taken ∈ before ++ step :: after, taken.IsSigned ∧ taken ≠ .dropTable) :
    let start := Session.start (.database .fresh) base
    let came := (start.run before).1.step step
    let last := (came.state.run after).1
    ((start.history (before ++ step :: after)).Pairwise fun earlier later =>
      later.IsIssued → earlier.key < later.key) ∧
    ∀ id url, step.HandsOut (came.value, came.events) id url →
      (∃ mark ∈ start.history (before ++ [step]), mark.key = id.word.toNat) ∧
      (.planted id.word.toNat ∉ came.state.history after →
        (last.step (.resolve id)).value = .resolved (.ok url) ∨
        (last.step (.resolve id)).value = .resolved (.error (.notFound id)) ∨
        (∃ failure, (last.step (.resolve id)).value = .resolved (.error (.store failure))) ∧
          ¬ last.IsClear) := by
  intro start came last
  have new : start.backing = .database ⟨⟨some .empty⟩, .ready⟩ := rfl
  have law : start.backing.Lawful := by
    rintro t ⟨⟩
    exact Table.lawful_empty
  constructor
  · obtain ⟨_, _, -, grown⟩ := run_grows (fun taken h => (lasting taken h).2) new
    exact grown.ordered
  · intro id url given
    have first : ∀ taken ∈ before, taken.IsSigned ∧ taken ≠ .dropTable :=
      fun taken h => lasting taken (List.mem_append_left _ h)
    have second : step.IsSigned ∧ step ≠ .dropTable := lasting step (by simp)
    have third : ∀ taken ∈ after, taken.IsSigned ∧ taken ≠ .dropTable :=
      fun taken h => lasting taken (by simp [h])
    obtain ⟨t₁, _, table₁, grown₁⟩ := run_grows (fun taken h => (first taken h).2) new
    have law₁ : (start.run before).1.backing.Lawful :=
      lawful_run law fun taken h => (first taken h).1
    obtain ⟨t₂, _, table₂, grown₂, belongs, known⟩ :=
      settled_of_handsOut law₁ table₁ second.1 second.2 given
    have law₂ : came.state.backing.Lawful := lawful_step law₁ second.1
    constructor
    · have marks : start.history (before ++ [step]) =
          start.history before ++ step.marks (came.value, came.events) := by
        rw [history_append, history_cons]
        exact congrArg _ (List.append_nil _)
      rw [marks]
      rcases known with hrow | issued
      · -- The new table had no rows, so the key of the row was marked.
        rcases (grown₁.trans grown₂).mem_or_marked hrow with there | marked
        · cases there
        · exact marked
      · exact ⟨_, List.mem_append_right _ issued, rfl⟩
    · intro apart
      obtain ⟨t₃, _, table₃, grown₃⟩ := run_grows (fun taken h => (third taken h).2) table₂
      have law₃ : last.backing.Lawful := lawful_run law₂ fun taken h => (third taken h).1
      rw [table₃] at law₃
      exact resolve_of_settled (law₃ t₃ rfl) table₃ (grown₃.settled belongs apart)

/-- A row is planted far up and deleted, and the next link gets the id after it. Then that is
    deleted as well, the file is opened again, and another url gets a link: the id of the first one
    does not lead to it. -/
theorem ids_are_never_reissued_after_deletions :
    let before : List Step :=
      [.make "http://a.b/", .plant 41 (.text ⟨#[0xff]⟩), .delete 41, .plant (-1) (.ofUrl "x")]
    let after : List Step := [.delete 42, .delete 1, .reopen, .make "http://e.f/"]
    let start := Session.start (.database .fresh) (.ofText "")
    let came := (start.run before).1.step (.make "http://c.d/")
    let last := (came.state.run after).1
    (∀ taken ∈ before ++ .make "http://c.d/" :: after, taken.IsSigned ∧ taken ≠ .dropTable) ∧
    (Step.make "http://c.d/").HandsOut (came.value, came.events) ⟨42⟩ "http://c.d/" ∧
    .planted 42 ∉ came.state.history after ∧
    (start.history (before ++ .make "http://c.d/" :: after)) =
      [.issued ⟨1⟩ "http://a.b/", .planted 41, .planted (-1), .issued ⟨42⟩ "http://c.d/",
        .issued ⟨43⟩ "http://e.f/"] ∧
    (last.step (.resolve ⟨42⟩)).value ≠ .resolved (.ok "http://e.f/") := by
  intro before after start came last
  have lasting : ∀ taken ∈ before ++ .make "http://c.d/" :: after,
      taken.IsSigned ∧ taken ≠ .dropTable := by
    simp [before, after, Step.IsSigned, maxKey]
  have made : ((Desk.make "http://c.d/").run Backing.store.faulty
      ((start.run before).1.backing, (start.run before).1.faults)).value = .ok ⟨42⟩ := by
    decide +kernel
  have given : (Step.make "http://c.d/").HandsOut (came.value, came.events) ⟨42⟩ "http://c.d/" :=
    .inl ⟨rfl, congrArg Outcome.made made⟩
  have apart : .planted 42 ∉ came.state.history after := by decide +kernel
  refine ⟨lasting, given, apart, by decide +kernel, fun other => ?_⟩
  obtain found | missing | ⟨⟨failure, failed⟩, -⟩ :=
    ((ids_are_never_reissued _ before _ after lasting).2 _ _ given).2 apart
  · exact absurd (found.symm.trans other) (by simp)
  · exact absurd (missing.symm.trans other) (by simp)
  · exact absurd (failed.symm.trans other) (by simp)

end Session

end LinkLedger
