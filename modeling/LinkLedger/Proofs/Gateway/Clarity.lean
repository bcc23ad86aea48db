import LinkLedger.Invocation
import LinkLedger.Proofs.Clarity
import LinkLedger.Proofs.Desk.Writing
import LinkLedger.Proofs.Gateway.Redirects
import LinkLedger.Proofs.Sessions
import LinkLedger.Proofs.Steps

/-!
# No url forges a report

A url may hold anything when it comes in. If it is refused, the reason has no control in it; if not,
it has none itself, and it may be reported as it is from then on. That a url which is read from the
store has none either rests on what is kept: if nothing but requests for links has put it there, it
was accepted once (`Backing.Accepted`). So every request reports clear events on such a store
(`Desk.make_clear`, `Gateway.respond_clear`), and **no url can forge a line of the log or of an error
report** (`no_url_forges_a_report`).
-/

set_option autoImplicit false

namespace LinkLedger

open LinkLedger.Http LinkLedger.Gateway

theorem noControl_of_accepted {url : String} (h : checkUrl url = .ok ()) : NoControl url.toList := by
  obtain ⟨-, -, -, controls, -⟩ := checkUrl_eq_ok_iff.mp h
  exact noControl_of_any (by simp [controls])

/-! ## What is kept -/

theorem Backing.LeadsTo.mem_rows {b : Backing} {id : LinkId} {url : String} (h : b.LeadsTo id url) :
    (Link.mk id url).row ∈ b.rows := by
  cases b with
  | memory m =>
    obtain ⟨before, after, same, -⟩ := List.lookup_eq_some_iff.mp h
    refine List.mem_map_of_mem ?_
    simp [Indexes.ledger, same]
  | database p =>
    obtain ⟨t, table, hrow⟩ := h
    rw [rows, table]
    exact hrow
  | closedServer => exact h.elim

/-- Whatever is kept is a link to a url that was accepted. -/
def Backing.Accepted (b : Backing) : Prop :=
  ∀ row ∈ b.rows, ∃ link : Link, link.row = row ∧ checkUrl link.url = .ok ()

theorem Backing.accepted_of_no_rows {b : Backing} (h : b.rows = []) : b.Accepted := by
  rw [Accepted, h]
  nofun

theorem Backing.Accepted.subset {b after : Backing} (h : b.Accepted) (sub : after.rows ⊆ b.rows) :
    after.Accepted := fun row hrow => h row (sub hrow)

theorem Backing.Accepted.answer {b : Backing} (h : b.Accepted) {call : Call} (fit : call.IsFit) :
    (store.answer call b).2.Accepted := by
  cases call with
  | findByUrl url => rwa [lookUp_state (.findByUrl url) rfl]
  | get id => rwa [lookUp_state (.get id) rfl]
  | insert url =>
    rcases insert_fails_or_adds url b with ⟨failure, answer⟩ | ⟨id, after, answer, adds⟩
    · rwa [answer]
    · rw [answer]
      intro row hrow
      rw [adds.rows_eq] at hrow
      rcases List.mem_append.mp hrow with old | new
      · exact h row old
      · exact ⟨⟨id, url⟩, (List.mem_singleton.mp new).symm, fit⟩

/-! ## What the stores answer -/

/-- The errors that say nothing about a row. -/
def SqlError.rowless : List SqlError := [.timedOut, .closed, .readOnly, .noTable, .full]

theorem SqlError.clear_of_rowless {e : SqlError} (h : e ∈ rowless) : e.failure.Clear := by
  have all : ∀ e ∈ rowless, NoControl e.failure.detail.toList := by decide +kernel
  exact all e h

theorem Pool.clear_of_obstacle {p : Pool} {e : SqlError} (h : p.obstacle? = some e) :
    e.failure.Clear := by
  unfold obstacle? at h
  split at h
  · cases h
  · cases h
  · cases h
    exact SqlError.clear_of_rowless (by decide)
  · cases h
    exact SqlError.clear_of_rowless (by decide)

/-- Reading the table fails for want of a connection or a table, or as the statement does. -/
theorem Pool.clear_of_reading {α : Type} {p : Pool} {statement : Table → Except SqlError α}
    {e : SqlError} (h : p.reading (fun d => d.reading statement) = .error e) :
    e.failure.Clear ∨ ∃ t, p.database.table = some t ∧ statement t = .error e := by
  unfold reading at h
  split at h
  next obstacle found =>
    cases h
    exact .inl (clear_of_obstacle found)
  next =>
    simp only [Database.reading] at h
    split at h
    · cases h
      exact .inl (SqlError.clear_of_rowless (by decide))
    next t table => exact .inr ⟨t, table, h⟩

namespace Backing

variable {p : Pool} {t : Table} {row : Row}

theorem Accepted.of_mem (h : (database p).Accepted) (table : p.database.table = some t)
    (hrow : row ∈ t.rows) : ∃ link : Link, link.row = row ∧ checkUrl link.url = .ok () := by
  apply h
  rw [rows, table]
  exact hrow

theorem Accepted.clear_findByUrl (h : (database p).Accepted) {url : String} {e : SqlError}
    (failed : p.findByUrl url = .error e) : e.failure.Clear := by
  rcases Pool.clear_of_reading failed with clear | ⟨t, table, read⟩
  · exact clear
  · split at read
    · cases read
    next row found =>
      -- the key of a row that holds a link is an id
      obtain ⟨link, rfl, -⟩ := h.of_mem table (List.mem_of_find?_eq_some found)
      rw [Link.row, LinkId.ofKey_natCast] at read
      cases read

theorem Accepted.clear_get (h : (database p).Accepted) {id : LinkId} {e : SqlError}
    (failed : p.get id = .error e) : e.failure.Clear := by
  unfold Pool.get at failed
  split at failed
  · cases failed
  next key _ =>
  rcases Pool.clear_of_reading failed with clear | ⟨t, table, read⟩
  · exact clear
  · split at read
    · cases read
    next row found =>
      -- and its cell is a url
      obtain ⟨link, rfl, -⟩ := h.of_mem table (List.mem_of_find?_eq_some found)
      rw [Link.row, Cell.url_ofUrl] at read
      cases read

theorem clear_insert (p : Pool) {url : String} (ok : checkUrl url = .ok ()) :
    (Call.insert url).Clear (p.insert url).1 := by
  have rowless {e : SqlError} (h : e ∈ SqlError.rowless) :
      (Call.insert url).Clear (.error e.failure) := SqlError.clear_of_rowless h
  obtain ⟨⟨table⟩, access⟩ := p
  cases access with
  | readOnly => exact rowless (e := .readOnly) (by decide)
  | held => exact rowless (e := .timedOut) (by decide)
  | closed => exact rowless (e := .closed) (by decide)
  | ready =>
    cases table with
    | none => exact rowless (e := .noTable) (by decide)
    | some t =>
      obtain ⟨-, answer⟩ | ⟨-, -, answer⟩ | ⟨-, -, answer⟩ :=
        Pool.insert_cases_of_works (p := ⟨⟨some t⟩, .ready⟩) rfl rfl url
      · rw [answer]
        exact rowless (by decide)
      · rw [answer]
        exact noControl_of_accepted ok
      · rw [answer]
        exact trivial

/-- **What is kept being accepted, every answer is clear.** -/
theorem clear : store.Clear Accepted where
  keeps fit good := good.answer fit
  remarks call b e he := by
    have silent : e.foreign = [] := by
      cases b with
      | memory m => cases he
      | database p => cases he
      | closedServer =>
        cases call with
        | get id =>
          obtain rfl := List.mem_singleton.mp he
          rfl
        | findByUrl url => cases he
        | insert url => cases he
    exact Event.clear_of_foreign (by rw [silent]; nofun)
  answer := by
    intro call b fit good
    have closed : SqlError.closed.failure.Clear := SqlError.clear_of_rowless (by decide)
    cases call with
    | findByUrl url =>
      cases b with
      | memory m => exact trivial
      | closedServer => exact closed
      | database p =>
        show (Call.findByUrl url).Clear (Pool.outcome (p.findByUrl url))
        cases found : p.findByUrl url with
        | ok id? => exact trivial
        | error e => exact good.clear_findByUrl found
    | insert url =>
      cases b with
      | closedServer => exact closed
      | database p => exact clear_insert p fit
      | memory m =>
        show (Call.insert url).Clear (m.insert url).1
        cases known : m.idOf? url with
        | some id =>
          rw [Indexes.insert_of_known known]
          exact noControl_of_accepted fit
        | none =>
          rw [Indexes.insert_of_new known]
          exact trivial
    | get id =>
      cases answered : (store.answer (.get id) b).1 with
      | ok link? =>
        cases link? with
        | none => exact trivial
        | some link =>
          obtain ⟨other, same, ok⟩ := good _ (leadsTo_of_get answered).mem_rows
          have url : other.url = link.url := Cell.ofUrl_inj.mp (congrArg Row.cell same)
          exact noControl_of_accepted (url ▸ ok)
      | error failure =>
        cases b with
        | memory m => cases answered
        | closedServer =>
          cases answered
          exact closed
        | database p =>
          have failed : Pool.outcome (p.get id) = .error failure := answered
          cases found : p.get id with
          | ok link? =>
            rw [found] at failed
            cases failed
          | error e =>
            rw [found] at failed
            cases failed
            exact good.clear_get found

end Backing

/-! ## Requests -/

theorem Refusal.noControl_invalidUrl {reason : String} (h : NoControl reason.toList) :
    NoControl (invalidUrl reason).message.toList := by
  show NoControl ("invalid url: " ++ reason).toList
  exact noControl_text_append.mpr ⟨by decide, h⟩

theorem Refusal.noControl_notFound (id : LinkId) : NoControl (notFound id).message.toList := by
  show NoControl ("permalink not found: " ++ id.text).toList
  exact noControl_text_append.mpr ⟨by decide, id.noControl_text⟩

theorem Refusal.noControl_store_iff {failure : StoreFailure} :
    NoControl (store failure).message.toList ↔ failure.Clear := by
  have words : NoControl "storage failure: ".toList := by decide
  show NoControl ("storage failure: " ++ failure.message).toList ↔ _
  rw [noControl_text_append, StoreFailure.noControl_message_iff, and_iff_right words]

namespace Desk

/-- A value that may be shown, or a refusal in clear words. -/
def Presentable {α : Type} (shown : α → Prop) : Except Refusal α → Prop
  | .ok a => shown a
  | .error refusal => NoControl refusal.message.toList

section

variable {url : String} (clean : NoControl url.toList)

include clean

theorem clear_of_url {e : Event} (h : e.foreign = [url]) : e.Clear := by
  refine Event.clear_of_foreign ?_
  rw [h]
  exact List.forall_mem_singleton.mpr clean

theorem lookUpWinner_clear : (lookUpWinner url).Clear (Presentable fun _ => True) := by
  refine ⟨trivial, fun answer clear => ?_⟩
  rcases answer with failure | _ | id
  · exact Refusal.noControl_store_iff.mpr clear
  · refine ⟨clear_of_url clean rfl, Refusal.noControl_store_iff.mpr ?_⟩
    show NoControl ("conflicting permalink disappeared: " ++ url).toList
    exact noControl_text_append.mpr ⟨by decide, clean⟩
  · exact trivial

theorem insertNew_clear (ok : checkUrl url = .ok ()) :
    (insertNew url).Clear (Presentable fun _ => True) := by
  refine ⟨ok, fun answer clear => ?_⟩
  rcases answer with failure | id
  · dsimp only
    split
    · exact ⟨clear_of_url clean rfl, lookUpWinner_clear clean⟩
    · exact Refusal.noControl_store_iff.mpr clear
  · exact ⟨clear_of_url clean rfl, trivial⟩

end

/-- **A request for a link reports its url only if it is accepted.** -/
theorem make_clear (url : String) : (make url).Clear (Presentable fun _ => True) := by
  rcases checkUrl_cases url with ok | ⟨fault, bad⟩
  · have clean := noControl_of_accepted ok
    simp only [make, ok]
    refine ⟨trivial, fun answer clear => ?_⟩
    rcases answer with failure | _ | id
    · exact Refusal.noControl_store_iff.mpr clear
    · exact insertNew_clear clean ok
    · exact ⟨clear_of_url clean rfl, trivial⟩
  · rw [make_of_error bad]
    exact Refusal.noControl_invalidUrl (noControl_of_refused bad)

/-- Whatever the store answers, a url is called invalid in clear words. -/
theorem make_reasons (url : String) : (make url).Always fun result =>
    ∀ reason, result = .error (.invalidUrl reason) → NoControl reason.toList := by
  -- Once the url is accepted, every end is an id or a failure of the store.
  have made (id : LinkId) (reason : String) (h : (.ok id : Except Refusal LinkId) =
      .error (.invalidUrl reason)) : NoControl reason.toList := by cases h
  have failed (failure : StoreFailure) (reason : String)
      (h : (.error (.store failure) : Except Refusal LinkId) = .error (.invalidUrl reason)) :
      NoControl reason.toList := by cases h
  rcases checkUrl_cases url with ok | ⟨fault, bad⟩
  · simp only [make, ok]
    intro answer
    rcases answer with failure | _ | id
    · exact failed failure
    · intro answer
      rcases answer with failure | id
      · dsimp only
        split
        · intro answer
          rcases answer with failure | _ | id
          · exact failed failure
          · exact failed _
          · exact made id
        · exact failed failure
      · exact made id
    · exact made id
  · rw [make_of_error bad]
    rintro reason ⟨⟩
    exact noControl_of_refused bad

theorem resolve_clear (id : LinkId) :
    (resolve id).Clear (Presentable fun url => NoControl url.toList) := by
  refine ⟨Event.clear_of_foreign nofun, trivial, fun answer clear => ?_⟩
  rcases answer with failure | _ | link
  · exact Refusal.noControl_store_iff.mpr clear
  · exact ⟨Event.clear_of_foreign nofun, Refusal.noControl_notFound id⟩
  · exact ⟨clear_of_url clear rfl, clear⟩

end Desk

namespace Gateway

theorem refuse_clear {refusal : Refusal} (h : NoControl refusal.message.toList) :
    (refuse refusal).Clear fun _ => True := by
  cases refusal with
  | store failure =>
    refine ⟨Event.clear_of_foreign ?_, trivial⟩
    refine List.forall_mem_singleton.mpr ?_
    exact StoreFailure.noControl_message_iff.mpr (Refusal.noControl_store_iff.mp h)
  | invalidUrl reason => exact trivial
  | notFound id => exact trivial

theorem follow_clear (id : LinkId) : (follow id).Clear fun _ => True := by
  have unsendable : NoControl (Refusal.store unsendable).message.toList := by decide +kernel
  refine (Desk.resolve_clear id).bind fun result presentable => ?_
  cases result with
  | error refusal => exact refuse_clear presentable
  | ok url =>
    refine ⟨Desk.clear_of_url presentable rfl, ?_⟩
    show Program.Clear _ (if isHeaderValue url then _ else _)
    split
    · exact trivial
    · exact refuse_clear unsendable

theorem display_clear (id : LinkId) : (display id).Clear fun _ => True := by
  refine (Desk.resolve_clear id).bind fun result presentable => ?_
  cases result with
  | error refusal => exact refuse_clear presentable
  | ok url => exact trivial

theorem make_clear (base : Base) (url : String) (reply : Link → String → Reply) :
    (make base url reply).Clear fun _ => True := by
  refine (Desk.make_clear url).bind fun result presentable => ?_
  cases result with
  | error refusal => exact refuse_clear presentable
  | ok id => exact trivial

/-- **Every request reports clear events.** -/
theorem respond_clear (base : Base) (r : Request) : (respond base r).Clear fun _ => True := by
  have answered : (answer base r).Clear fun _ => True := by
    have handled := Handling.of_answer base r
    generalize answer base r = p at handled ⊢
    cases handled with
    | settled plain => exact trivial
    | following => exact follow_clear _
    | displaying => exact display_clear _
    | linking => exact make_clear base _ _
    | creating => exact make_clear base _ _
  exact answered.bind fun reply _ => trivial

end Gateway

theorem makeAll_clear (urls : List String) : (makeAll urls).Clear fun _ => True := by
  induction urls with
  | nil => exact trivial
  | cons url urls ih =>
    exact (Desk.make_clear url).bind fun result _ => ih.bind fun results _ => trivial

theorem leadBack_clear (made : List (String × LinkId)) : (leadBack made).Clear fun _ => True := by
  induction made with
  | nil => exact trivial
  | cons first rest ih =>
    exact (Desk.resolve_clear first.2).bind fun result _ => ih.bind fun back _ => trivial

theorem makeTogether_clear (urls : List String) : (makeTogether urls).Clear fun _ => True :=
  (makeAll_clear urls).bind fun _ _ => (leadBack_clear _).bind fun _ _ => trivial

/-! ## Sessions -/

/-- What leaves the store to requests for links: nothing is inserted or planted in it directly, and
    planned failures are in clear words. -/
def Step.IsOrdinary : Step → Prop
  | .ask (.insert _) | .plant _ _ => False
  | .plan _ (.fail failure) => failure.Clear
  | _ => True

/-- What is kept was accepted, and planned failures are in clear words. -/
def Session.Clear (s : Session) : Prop := s.backing.Accepted ∧ s.faults.Clear

/-- Work on the store adds no rows, unless it plants one. -/
theorem Step.work_rows {step : Step} (h : step.IsOrdinary) (b : Backing) :
    (step.work b).rows ⊆ b.rows := by
  cases b with
  | memory m =>
    rw [step.work_memory]
    exact List.Subset.refl _
  | closedServer => cases step <;> exact List.Subset.refl _
  | database p =>
    obtain ⟨⟨table⟩, access⟩ := p
    cases step with
    | plant key cell => exact h.elim
    | delete key =>
      cases table <;> cases access
      case some.ready t => exact List.filter_subset_self t.rows
      all_goals exact List.Subset.refl _
    | dropTable =>
      cases access
      case ready => exact List.nil_subset _
      all_goals exact List.Subset.refl _
    | ensureTable => cases table <;> cases access <;> exact List.Subset.refl _
    | reopen => cases table <;> exact List.Subset.refl _
    | _ => exact List.Subset.refl _

namespace Session

variable {s : Session}

/-- **One step**: what it reports is clear, and so is the session afterwards. -/
theorem Clear.step (h : s.Clear) {step : Step} (ordinary : step.IsOrdinary) :
    (∀ e ∈ (s.step step).events, e.Clear) ∧ (s.step step).state.Clear := by
  have request : ∀ {α : Type} {p : Program α} (outcome : α → Outcome), (p.Clear fun _ => True) →
      (∀ e ∈ (s.request p outcome).events, e.Clear) ∧ (s.request p outcome).state.Clear :=
    fun outcome clear => clear.run Backing.clear.faulty h
  have worked : (step.work s.backing).Accepted := h.1.subset (Step.work_rows ordinary s.backing)
  have anything : ∀ {α : Type} {Q : Except Refusal α → Prop} {p : Program (Except Refusal α)},
      p.Clear Q → p.Clear fun _ => True := fun clear => clear.mono fun _ _ => trivial
  cases step with
  | make url => exact request _ (anything (Desk.make_clear url))
  | resolve id => exact request _ (anything (Desk.resolve_clear id))
  | makeTogether urls => exact request _ (makeTogether_clear urls)
  | send r => exact request _ (respond_clear s.base r)
  | ask call =>
    have fit : call.IsFit := by
      cases call with
      | insert url => exact ordinary.elim
      | findByUrl url => exact trivial
      | get id => exact trivial
    exact ⟨Backing.clear.remarks call s.backing, h.1.answer fit, h.2⟩
  | plan kind fault =>
    refine ⟨nofun, h.1, h.2.withQueue fun failure hmem => ?_⟩
    rcases List.mem_append.mp hmem with old | new
    · exact h.2 kind failure old
    · obtain rfl := List.mem_singleton.mp new
      exact ordinary
  | size => exact ⟨nofun, h⟩
  | ensureTable | plant _ _ | delete _ | dropTable | close | hold | release | reopen =>
    exact ⟨nofun, worked, h.2⟩

/-- **Any number of steps.** -/
theorem Clear.run (h : s.Clear) {steps : List Step} (ordinary : ∀ step ∈ steps, step.IsOrdinary) :
    ∀ came ∈ (s.run steps).2, ∀ e ∈ came.2, e.Clear := by
  induction steps generalizing s with
  | nil => nofun
  | cons first more ih =>
    obtain ⟨events, after⟩ := h.step (ordinary first List.mem_cons_self)
    refine List.forall_mem_cons.mpr ⟨events, ih after fun step hstep => ?_⟩
    exact ordinary step (List.mem_cons_of_mem first hstep)

end Session

/-- Requests at a time. -/
theorem Operation.program_clear {o : Operation} (ordinary : o.step.IsOrdinary)
    (base : Base) : (o.program base).Clear fun _ => True := by
  cases o with
  | ask call =>
    cases call with
    | insert url => exact ordinary.elim
    | findByUrl url => exact ⟨trivial, fun _ _ => trivial⟩
    | get id => exact ⟨trivial, fun _ _ => trivial⟩
  | make url => exact (Desk.make_clear url).bind fun _ _ => trivial
  | resolve id => exact (Desk.resolve_clear id).bind fun _ _ => trivial
  | send r => exact (respond_clear base r).bind fun _ _ => trivial

/-- **No url forges a report.**

    * If a request for a link is refused because of its url, there is no control in the reason,
      whatever the url holds, and none in the lines that report the refusal.
    * Begin with a store that keeps nothing and leave it to requests, one after another or at a time
      in any turns, on any plan of faults in clear words. Then no event has a control in its message
      or in a field, and no line of the log has one in either format, if the time has none. -/
theorem no_url_forges_a_report :
    (∀ {σ : Type} (store : Store σ) (s : σ) (url reason : String),
      ((Desk.make url).run store s).value = .error (.invalidUrl reason) →
      NoControl reason.toList ∧
        ∀ line ∈ (RunFailure.refused (.invalidUrl reason)).lines, NoControl line.toList) ∧
    (∀ (backing : Backing) (base : Base) (steps : List Step), backing.rows = [] →
      (∀ step ∈ steps, step.IsOrdinary) →
      ∀ came ∈ ((Session.start backing base).run steps).2, ∀ e ∈ came.2, e.Clear) ∧
    (∀ (backing : Backing) (plan : FaultPlan) (base : Base) (operations : List Operation)
      (schedule : List Nat), backing.rows = [] → plan.Clear →
      (∀ o ∈ operations, o.step.IsOrdinary) →
      ∀ e ∈ ((Crowd.gather (operations.map (Operation.program base)) (backing, plan)).run
        Backing.store.faulty schedule).events, e.Clear) ∧
    ∀ (format : Log.Format) (time : String) (e : Event), NoControl time.toList → e.Clear →
      NoControl (format.line time e).toList := by
  refine ⟨?_, ?_, ?_, ?_⟩
  · intro σ store s url reason refused
    have clean : NoControl reason.toList := (Desk.make_reasons url).run store s reason refused
    refine ⟨clean, List.forall_mem_singleton.mpr ?_⟩
    show NoControl ("Error: " ++ (Refusal.invalidUrl reason).message).toList
    exact noControl_text_append.mpr ⟨by decide, Refusal.noControl_invalidUrl clean⟩
  · intro backing base steps new ordinary
    have clear : (Session.start backing base).Clear :=
      ⟨Backing.accepted_of_no_rows new, FaultPlan.clear_none⟩
    exact clear.run ordinary
  · intro backing plan base operations schedule new clear ordinary
    have start : (Crowd.gather (operations.map (Operation.program base)) (backing, plan)).Clear
        (fun _ => True) fun state => state.1.Accepted ∧ state.2.Clear := by
      refine ⟨fun p hp => ?_, ⟨Backing.accepted_of_no_rows new, clear⟩, nofun⟩
      obtain ⟨o, ho, rfl⟩ := List.mem_map.mp hp
      exact Operation.program_clear (ordinary o ho) base
    exact (start.run Backing.clear.faulty schedule).events
  · intro format time e htime clear
    exact Log.noControl_line format htime clear

/-- A url that would forge a line is refused and quoted, one that is accepted is reported as it is,
    and a planned failure is reported in its own words. -/
theorem no_url_forges_a_report_by_a_line_end :
    let base : Base := .ofText ""
    let forged := "http://a.b/\nERROR permalink: gone"
    let steps : List Step :=
      [.make forged, .make "http://a.b/é", .plan .get (.fail ⟨.timeout, "too slow"⟩), .resolve ⟨1⟩]
    let reason := "URL contains control characters: \"http://a.b/\\nERROR permalink: gone\""
    ((Desk.make forged).run Backing.store (.memory .empty)).value = .error (.invalidUrl reason) ∧
      NoControl reason.toList ∧
      ∀ came ∈ ((Session.start (.database .fresh) base).run steps).2, ∀ e ∈ came.2, e.Clear := by
  intro base forged steps reason
  obtain ⟨refusals, sessions, -⟩ := no_url_forges_a_report
  have refused : ((Desk.make forged).run Backing.store (.memory .empty)).value =
      .error (.invalidUrl reason) := by decide +kernel
  refine ⟨refused, (refusals _ _ _ _ refused).1, sessions _ base steps rfl ?_⟩
  intro step hstep
  simp only [steps, List.mem_cons, List.not_mem_nil, or_false] at hstep
  have words : NoControl "too slow".toList := by decide
  rcases hstep with rfl | rfl | rfl | rfl
  · exact trivial
  · exact trivial
  · exact words
  · exact trivial

end LinkLedger
