import LinkLedger.Proofs.Desk.Writing
import LinkLedger.Proofs.Gateway.Permalinks
import LinkLedger.Proofs.Gateway.Replies
import LinkLedger.Session

/-!
# Only requests that make a link write

`Request.Creates r status` says of a request and the status of its response that a link was asked
for and given. Only `make` asks the store for more than look-ups, and what it adds it replies with
(`Wrote.of_answer`). So **a request that is not answered so leaves what is kept as it was, and one
that is adds at most the link in its response** (`only_creations_write`).

Steps of a session may therefore be left out where they are such requests: what comes of the other
steps is the same (`tour_leaving_out`). The faults that a step meets are told beside the step, so
that a step that is left out takes no others with it.
-/

set_option autoImplicit false

namespace LinkLedger

open LinkLedger.Http LinkLedger.Gateway

/-! ## Requests that make links -/

/-- A request that asked for a link and was given one: by the parameters of a query, of which one
    asks for a link and none to follow one, or by a body. -/
inductive Http.Request.Creates (r : Request) : Status → Prop
  | byQuery (path : r.path = ['/']) (method : r.method = .get ∨ r.method = .head)
    (asked : ∃ p ∈ parameters r.query, p.field.key = makeKey)
    (alone : ∀ p ∈ parameters r.query, p.field.key ≠ followKey) : r.Creates .ok
  | byBody (path : r.path = Route.linksPath.toList) (method : r.method = .post) :
    r.Creates .created

/-- The request for the whole response where only its head is asked for. -/
def Http.Request.asGet (r : Request) : Request :=
  { r with method := if r.method = .head then .get else r.method }

theorem Http.Request.method_asGet_ne (r : Request) : r.asGet.method ≠ .head := by
  unfold asGet
  by_cases h : r.method = .head <;> simp [h]

namespace Gateway

theorem Route.path_of_links {path : List Char} (h : Route.ofPath? path = some .links) :
    path = linksPath.toList := by
  unfold ofPath? at h
  split at h
  · cases h
  split at h
  · cases h
  split at h
  · assumption
  dsimp only at h
  split at h <;> cases h

theorem exists_key_of_valueOf? {key value : String} {ps : List Parameter}
    (h : valueOf? key ps = some value) : ∃ p ∈ ps, p.field.key = key := by
  obtain ⟨p, found, -⟩ := Option.map_eq_some_iff.mp h
  exact ⟨p, List.mem_of_find?_eq_some found, by simpa [Parameter.hasKey] using List.find?_some found⟩

/-- No route answers to heads and not to the whole responses, and nothing else looks at the
    method. -/
theorem answer_asGet (base : Base) (r : Request) : answer base r.asGet = answer base r := by
  have path : r.asGet.path = r.path := rfl
  have query : r.asGet.query = r.query := rfl
  have json : r.asGet.saysJson = r.saysJson := rfl
  have routed : ∀ route : Route, (r.asGet.method ∈ route.methods) = (r.method ∈ route.methods) := by
    intro route
    unfold Request.asGet
    by_cases h : r.method = .head
    · cases route <;> simp [h, Route.methods]
    · simp [h]
  unfold answer
  rw [path]
  cases Route.ofPath? r.path with
  | none => rfl
  | some route =>
    simp only [routed]
    cases route with
    | report => rfl
    | health => rfl
    | links => rfl
    | link segment => rfl

/-! ## What requests write -/

theorem refuse_looksUp (refusal : Refusal) : (refuse refusal).LooksUp := by
  cases refusal <;> exact trivial

theorem follow_looksUp (id : LinkId) : (follow id).LooksUp := by
  refine (Desk.resolve_looksUp id).bind fun result => ?_
  rcases result with refusal | url
  · exact refuse_looksUp refusal
  · show (if isHeaderValue url then Program.done (Reply.redirect url)
      else refuse (.store unsendable)).LooksUp
    split
    · exact trivial
    · exact refuse_looksUp _

theorem display_looksUp (id : LinkId) : (display id).LooksUp := by
  refine (Desk.resolve_looksUp id).bind fun result => ?_
  rcases result with refusal | url
  · exact refuse_looksUp refusal
  · exact trivial

/-- The reply to a request for the link to a url, once the desk has given it an id or refused. -/
def madeReply (base : Base) (url : String) (kind : Link → String → Reply) :
    Except Refusal LinkId → Reply
  | .error refusal => .refused refusal
  | .ok id => kind ⟨id, url⟩ (base.permalink id)

/-- **A request for a link runs the desk**: the desk's result makes the reply, and nothing else is
    written. -/
theorem make_run (base : Base) (url : String) (kind : Link → String → Reply) {σ : Type}
    (store : Store σ) (s : σ) :
    ((make base url kind).run store s).value =
        madeReply base url kind ((Desk.make url).run store s).value ∧
      ((make base url kind).run store s).state = ((Desk.make url).run store s).state := by
  simp only [make, Program.bind_eq, Program.run_bind]
  cases ((Desk.make url).run store s).value with
  | error refusal =>
    refine ⟨refuse_run_value _ _ refusal, ?_⟩
    cases refusal <;> rfl
  | ok id => exact ⟨rfl, rfl⟩

theorem make_run_made (base : Base) (url : String) (kind : Link → String → Reply)
    (state : Backing × FaultPlan) :
    ∃ result, Desk.Made state.1 url result
        ((make base url kind).run Backing.store.faulty state).state.1 ∧
      ((make base url kind).run Backing.store.faulty state).value =
        madeReply base url kind result := by
  obtain ⟨value, later⟩ := make_run base url kind Backing.store.faulty state
  refine ⟨_, ?_, value⟩
  rw [later]
  exact Desk.Made.of_make url state

/-- The reply to a request, and what is kept before and after it. -/
inductive Wrote (base : Base) (r : Request) (before : Backing) : Reply → Backing → Prop
  | nothing (reply : Reply) : Wrote base r before reply before
  /-- A link was asked for and is added, and the reply gives it. -/
  | link {kind : Link → String → Reply} {link : Link} {after : Backing} (gives : LinkReply kind)
    (adds : before.Adds link after)
    (creates : r.Creates (kind link (base.permalink link.id)).response.status) :
    Wrote base r before (kind link (base.permalink link.id)) after

theorem Wrote.of_make {base : Base} {r : Request} {kind : Link → String → Reply}
    (gives : LinkReply kind)
    (creates : ∀ link permalink, r.Creates (kind link permalink).response.status) (url : String)
    (state : Backing × FaultPlan) :
    Wrote base r state.1 ((make base url kind).run Backing.store.faulty state).value
      ((make base url kind).run Backing.store.faulty state).state.1 := by
  obtain ⟨result, made, value⟩ := make_run_made base url kind state
  rw [value]
  generalize ((make base url kind).run Backing.store.faulty state).state.1 = after at made
  cases made with
  | refused refusal => exact .nothing _
  | @known id found => exact .nothing (kind ⟨id, url⟩ (base.permalink id))
  | @added id after adds =>
    have creates' := creates ⟨id, url⟩ (base.permalink id)
    exact @Wrote.link base r state.1 kind ⟨id, url⟩ after gives adds creates'

/-- **What a request writes**, whatever is kept and whatever the layer does. -/
theorem Wrote.of_answer (base : Base) (r : Request) (state : Backing × FaultPlan) :
    Wrote base r state.1 ((answer base r).run Backing.store.faulty state).value
      ((answer base r).run Backing.store.faulty state).state.1 := by
  have handled := Handling.of_answer base r
  generalize answer base r = p at handled ⊢
  cases handled with
  | settled plain => exact .nothing _
  | following =>
    rw [(follow_looksUp _).run state]
    exact .nothing _
  | displaying =>
    rw [(display_looksUp _).run state]
    exact .nothing _
  | linking path method alone asked linked =>
    refine Wrote.of_make .linked (fun _ _ => ?_) _ state
    refine .byQuery (Route.path_of_report path) (by simpa [Route.methods] using method) ?_ ?_
    · exact exists_key_of_valueOf? asked
    · exact valueOf?_eq_none_iff.mp alone
  | creating path method json short read =>
    refine Wrote.of_make .created (fun _ _ => ?_) _ state
    exact .byBody (Route.path_of_links path) (by simpa [Route.methods] using method)

theorem LinkReply.carries {kind : Link → String → Reply} (gives : LinkReply kind) (link : Link)
    (permalink : String) : (kind link permalink).response.Carries link permalink := by
  cases gives with
  | linked => exact ⟨.inl rfl, rfl⟩
  | created => exact ⟨.inr rfl, rfl⟩

/-- A request changes nothing, or it asked for a link and its response gives the link that is
    added. -/
theorem respond_writes (base : Base) (r : Request) (state : Backing × FaultPlan) :
    ((respond base r).run Backing.store.faulty state).state.1 = state.1 ∨
    ∃ link, state.1.Adds link ((respond base r).run Backing.store.faulty state).state.1 ∧
      r.Creates ((respond base r).run Backing.store.faulty state).value.status ∧
      ((respond base r.asGet).run Backing.store.faulty state).value.Carries link
        (base.permalink link.id) := by
  have wrote := Wrote.of_answer base r state
  have status : ∀ response : Response,
      (if r.method = .head then response.headOnly else response).status = response.status := by
    intro response
    split <;> rfl
  rw [respond_run, respond_run, answer_asGet, if_neg r.method_asGet_ne, status]
  generalize (answer base r).run Backing.store.faulty state = ran at wrote
  obtain ⟨reply, ⟨kept, plan⟩, events⟩ := ran
  dsimp only at wrote ⊢
  cases wrote with
  | nothing => exact .inl rfl
  | link gives adds creates => exact .inr ⟨_, adds, creates, gives.carries _ _⟩

end Gateway

/-! ## Steps that may be left out -/

/-- A step of a session, and the faults that its questions meet. -/
structure Visit where
  step : Step
  faults : FaultPlan
  /-- Whether the step is one that was put in. -/
  extra : Bool

namespace Backing

/-- Takes steps in order, each with its own faults: what is kept afterwards, and what came of each
    step. -/
def tour (base : Base) (b : Backing) : List Visit → Backing × List (Visit × Outcome × List Event)
  | [] => (b, [])
  | visit :: more =>
    let ran := (Session.mk b visit.faults base).step visit.step
    let (after, rest) := tour base ran.state.backing more
    (after, (visit, ran.value, ran.events) :: rest)

end Backing

/-- What came of a step is the response to a request that was not given a link it asked for. -/
def Outcome.CreatesNothing (step : Step) (outcome : Outcome) : Prop :=
  ∃ r response, step = .send r ∧ outcome = .response response ∧ ¬ r.Creates response.status

namespace Backing

theorem step_keeps_of_createsNothing {s : Session} {step : Step}
    (nothing : (s.step step).value.CreatesNothing step) :
    (s.step step).state.backing = s.backing := by
  obtain ⟨r, response, rfl, came, not⟩ := nothing
  have came' : ((respond s.base r).run Backing.store.faulty (s.backing, s.faults)).value = response :=
    Outcome.response.inj came
  rcases respond_writes s.base r (s.backing, s.faults) with same | ⟨link, -, creates, -⟩
  · exact same
  · rw [came'] at creates
    exact absurd creates not

/-- **Requests that create nothing may be left out**: what comes of the other steps is the same, and
    so is what is kept. -/
theorem tour_leaving_out (base : Base) (visits : List Visit) :
    ∀ b : Backing, (∀ came ∈ (b.tour base visits).2, came.1.extra = true →
        came.2.1.CreatesNothing came.1.step) →
      b.tour base (visits.filter fun visit => !visit.extra) =
        ((b.tour base visits).1, (b.tour base visits).2.filter fun came => !came.1.extra) := by
  induction visits with
  | nil =>
    intro b _
    rfl
  | cons visit more ih =>
    intro b nothing
    have later := ih ((Session.mk b visit.faults base).step visit.step).state.backing
      fun came hcame => nothing came (List.mem_cons_of_mem _ hcame)
    cases extra : visit.extra with
    | true =>
      have same := step_keeps_of_createsNothing (nothing _ List.mem_cons_self extra)
      rw [same] at later
      rw [List.filter_cons_of_neg (by simp [extra]), later]
      simp only [tour, same]
      rw [List.filter_cons_of_neg (by simp [extra])]
    | false =>
      rw [List.filter_cons_of_pos (by simp [extra])]
      simp only [tour, later]
      rw [List.filter_cons_of_pos (by simp [extra])]

end Backing

/-- **Only requests that make a link write.** -/
theorem only_creations_write (base : Base) (b : Backing) :
    (∀ (faults : FaultPlan) (r : Request), ∃ response,
      let ran := (Session.mk b faults base).step (.send r)
      ran.value = .response response ∧
      (¬ r.Creates response.status → ran.state.backing = b) ∧
      (ran.state.backing = b ∨ ∃ link shown, b.Adds link ran.state.backing ∧
        ((Session.mk b faults base).step (.send r.asGet)).value = .response shown ∧
        shown.Carries link (base.permalink link.id))) ∧
    ∀ visits : List Visit,
      (∀ came ∈ (b.tour base visits).2, came.1.extra = true →
        came.2.1.CreatesNothing came.1.step) →
      b.tour base (visits.filter fun visit => !visit.extra) =
        ((b.tour base visits).1, (b.tour base visits).2.filter fun came => !came.1.extra) := by
  refine ⟨fun faults r => ⟨_, rfl, fun not => ?_, ?_⟩, fun visits => b.tour_leaving_out base visits⟩
  · exact Backing.step_keeps_of_createsNothing (s := ⟨b, faults, base⟩) ⟨r, _, rfl, rfl, not⟩
  · rcases respond_writes base r (b, faults) with same | ⟨link, adds, -, shown⟩
    · exact .inl same
    · exact .inr ⟨link, _, adds, rfl, shown⟩

/-- On a table with one row, a head is asked for with both parameters, then with one, while an
    insertion fails; then again. Only the last of these adds a row, so the others may be left out. -/
theorem only_creations_write_on_a_table :
    let b : Backing := .database ⟨⟨some ⟨[⟨7, .ofUrl "http://a.b/"⟩], 7⟩⟩, .ready⟩
    let head (target : String) : Step := .send ⟨.head, target, [], .empty⟩
    let visits : List Visit :=
      [⟨head "/?make_redir&a=1&do_redir=7", .none, true⟩,
        ⟨head "/?make_redir&a=1", ⟨[], [.fail ⟨.timeout, "too slow"⟩], []⟩, true⟩,
        ⟨head "/?make_redir&a=1", .none, false⟩]
    (b.tour (.ofText "http://host/app") visits).1 =
        .database ⟨⟨some ⟨[⟨7, .ofUrl "http://a.b/"⟩, ⟨8, .ofUrl "http://host/app?a=1"⟩], 8⟩⟩, .ready⟩ ∧
      (b.tour (.ofText "http://host/app") (visits.drop 2)).1 =
        (b.tour (.ofText "http://host/app") visits).1 := by
  intro b head visits
  have kept : (b.tour (.ofText "http://host/app") visits).1 =
      .database ⟨⟨some ⟨[⟨7, .ofUrl "http://a.b/"⟩, ⟨8, .ofUrl "http://host/app?a=1"⟩], 8⟩⟩, .ready⟩ := by
    decide +kernel
  refine ⟨kept, ?_⟩
  have left := (only_creations_write (.ofText "http://host/app") b).2 visits ?_
  · show (b.tour (.ofText "http://host/app") (visits.filter fun visit => !visit.extra)).1 = _
    rw [left]
  · have apart : ∀ (r : Request) (status : Status), status ≠ .ok ∧ status ≠ .created →
        ¬ r.Creates status := by
      rintro r _ hne (_ | _)
      · exact hne.1 rfl
      · exact hne.2 rfl
    simp only [visits, Backing.tour, List.mem_cons, List.not_mem_nil, or_false]
    rintro came (rfl | rfl | rfl) extra
    · exact ⟨_, _, rfl, rfl, apart _ _ (by decide +kernel)⟩
    · exact ⟨_, _, rfl, rfl, apart _ _ (by decide +kernel)⟩
    · cases extra

end LinkLedger
