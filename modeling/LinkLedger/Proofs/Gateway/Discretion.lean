import LinkLedger.Proofs.Exchanges
import LinkLedger.Proofs.Gateway.Replies
import LinkLedger.Proofs.Store.Faults
import LinkLedger.Store.Backing

/-!
# Failures of a store are logged and not told

Two stores are asked the same and answer alike, except that where one fails the other fails in
another way. The results that the desk comes to differ in the failure only (`Desk.make_veiled`), and
the reply to a failure is the same for all failures, so **the responses are equal**. And a request
reports a failure exactly if its last exchange with the store amounts to one
(`Exchange.failure?`): then the event has the failure in words, and the response is the one fixed
response (`respond_traces`). **`failures_are_logged_and_not_told`** puts the two together.
-/

set_option autoImplicit false

namespace LinkLedger

open LinkLedger.Http LinkLedger.Gateway

variable {α σ τ : Type}

/-! ## Failures that cannot be told apart -/

theorem Call.Alike.cases {call : Call} {x y : call.Outcome} (h : call.Alike x y) :
    (∃ a, x = .ok a ∧ y = .ok a) ∨ ∃ f g, x = .error f ∧ y = .error g := by
  rcases x with f | a <;> rcases y with g | b
  · exact .inr ⟨f, g, rfl, rfl⟩
  · cases call <;> exact h.elim
  · cases call <;> exact h.elim
  · refine .inl ⟨a, rfl, ?_⟩
    cases call <;> exact congrArg Except.ok (Eq.symm h)

namespace Desk

/-- The same result, or two failures of a store. -/
def Indistinct (x y : Except Refusal α) : Prop :=
  x = y ∨ ∃ f g, x = .error (.store f) ∧ y = .error (.store g)

theorem lookUpWinner_veiled (url : String) :
    (lookUpWinner url).Veiled Indistinct (lookUpWinner url) := by
  refine .ask fun x y alike => ?_
  obtain ⟨id?, rfl, rfl⟩ | ⟨f, g, rfl, rfl⟩ := alike.cases
  · cases id? with
    | some id => exact .done (.inl rfl)
    | none => exact .report (.done (.inl rfl))
  · exact .done (.inr ⟨f, g, rfl, rfl⟩)

theorem insertNew_veiled (url : String) : (insertNew url).Veiled Indistinct (insertNew url) := by
  refine .ask fun x y alike => ?_
  obtain ⟨id, rfl, rfl⟩ | ⟨f, g, rfl, rfl⟩ := alike.cases
  · exact .report (.done (.inl rfl))
  · have same : f.kind = .conflict ↔ g.kind = .conflict := alike
    dsimp only
    by_cases lost : f.kind = .conflict
    · rw [if_pos lost, if_pos (same.mp lost)]
      exact .report (lookUpWinner_veiled url)
    · rw [if_neg lost, if_neg fun h => lost (same.mpr h)]
      exact .done (.inr ⟨f, g, rfl, rfl⟩)

theorem make_veiled (url : String) : (make url).Veiled Indistinct (make url) := by
  unfold make
  cases checkUrl url with
  | error fault => exact .done (.inl rfl)
  | ok _ =>
    refine .ask fun x y alike => ?_
    obtain ⟨id?, rfl, rfl⟩ | ⟨f, g, rfl, rfl⟩ := alike.cases
    · cases id? with
      | some id => exact .report (.done (.inl rfl))
      | none => exact insertNew_veiled url
    · exact .done (.inr ⟨f, g, rfl, rfl⟩)

theorem resolve_veiled (id : LinkId) : (resolve id).Veiled Indistinct (resolve id) := by
  refine .report (.ask fun x y alike => ?_)
  obtain ⟨link?, rfl, rfl⟩ | ⟨f, g, rfl, rfl⟩ := alike.cases
  · cases link? with
    | some link => exact .report (.done (.inl rfl))
    | none => exact .report (.done (.inl rfl))
  · exact .done (.inr ⟨f, g, rfl, rfl⟩)

end Desk

namespace Gateway

def SameResponse (a b : Reply) : Prop := a.response = b.response

theorem refuse_store_veiled (f g : StoreFailure) :
    (refuse (.store f)).Veiled SameResponse (refuse (.store g)) := .report (.done rfl)

theorem refuse_veiled (refusal : Refusal) :
    (refuse refusal).Veiled SameResponse (refuse refusal) := by
  cases refusal with
  | store failure => exact refuse_store_veiled failure failure
  | invalidUrl reason => exact .done rfl
  | notFound id => exact .done rfl

/-- A handler that refuses what the desk refuses goes on the same way from two indistinct results. -/
theorem veiled_of_indistinct {p : Program (Except Refusal α)}
    (veiled : p.Veiled Desk.Indistinct p) {f : Except Refusal α → Program Reply}
    (refuses : ∀ refusal, f (.error refusal) = refuse refusal)
    (accepts : ∀ a, (f (.ok a)).Veiled SameResponse (f (.ok a))) :
    (p.bind f).Veiled SameResponse (p.bind f) := by
  refine veiled.bind fun x y indistinct => ?_
  obtain rfl | ⟨failure, other, rfl, rfl⟩ := indistinct
  · cases x with
    | error refusal =>
      rw [refuses]
      exact refuse_veiled refusal
    | ok a => exact accepts a
  · rw [refuses, refuses]
    exact refuse_store_veiled failure other

theorem follow_veiled (id : LinkId) : (follow id).Veiled SameResponse (follow id) := by
  refine veiled_of_indistinct (Desk.resolve_veiled id) (fun _ => rfl) fun url => ?_
  let sent := if isHeaderValue url then Program.done (Reply.redirect url)
    else refuse (.store unsendable)
  have veiled : sent.Veiled SameResponse sent := by
    unfold sent
    by_cases fits : isHeaderValue url = true
    · rw [if_pos fits]
      exact .done rfl
    · rw [if_neg fits]
      exact refuse_veiled _
  exact .report veiled

theorem display_veiled (id : LinkId) : (display id).Veiled SameResponse (display id) :=
  veiled_of_indistinct (Desk.resolve_veiled id) (fun _ => rfl) fun _ => .done rfl

theorem make_veiled (base : Base) (url : String) (kind : Link → String → Reply) :
    (make base url kind).Veiled SameResponse (make base url kind) :=
  veiled_of_indistinct (Desk.make_veiled url) (fun _ => rfl) fun _ => .done rfl

/-- **Every request veils failures.** -/
theorem answer_veiled (base : Base) (r : Request) :
    (answer base r).Veiled SameResponse (answer base r) := by
  have handled := Handling.of_answer base r
  generalize answer base r = p at handled ⊢
  cases handled with
  | settled plain => exact .done rfl
  | following => exact follow_veiled _
  | displaying => exact display_veiled _
  | linking => exact make_veiled base _ _
  | creating => exact make_veiled base _ _

theorem respond_veiled (base : Base) (r : Request) :
    (respond base r).Veiled Eq (respond base r) := by
  refine (answer_veiled base r).bind fun a b same => ?_
  refine .done ?_
  rw [same]

/-! ## Failures and what is reported of them -/

/-- The failure that a reply was refused for, if it was refused for one. -/
def Reply.failure? : Reply → Option StoreFailure
  | .refused (.store failure) => some failure
  | _ => none

theorem Reply.failure?_of_isSettled {reply : Reply} (h : reply.isSettled = true) :
    reply.failure? = none := by
  cases reply <;> simp_all [isSettled, failure?]

/-- The response to all failures of the store. -/
def failureResponse : Response :=
  .json .internalError "\x7b\"error\":\"internal storage error\"\x7d"

theorem Reply.response_of_failure {reply : Reply} {failure : StoreFailure}
    (h : reply.failure? = some failure) : reply.response = failureResponse := by
  rcases reply with _ | _ | _ | _ | _ | _ | refusal | _
  case refused =>
    cases refusal with
    | store f => rfl
    | invalidUrl reason => cases h
    | notFound id => cases h
  all_goals cases h

/-- No other reply is put into a response with that status. -/
theorem Reply.status_eq_internalError_iff (reply : Reply) :
    reply.response.status = .internalError ↔ reply.failure?.isSome = true := by
  cases reply with
  | refused refusal => cases refusal <;> simp [response, refusalResponse, Response.json, failure?]
  | unreadable problem =>
    simp only [response, unreadableResponse]
    split <;> simp [Response.plain, failure?]
  | _ => simp [response, Response.json, Response.plain, Response.empty, failure?]

/-- The failure of a store that a url which it refuses to store twice is not found. -/
def disappeared (url : String) : StoreFailure :=
  ⟨.invalidData, s!"conflicting permalink disappeared: {url}"⟩

end Gateway

/-- The failure that the last exchange of a request amounts to: a failure of the store, no link for a
    url that could not be inserted, or, if the client is to be `sent` on, a url that cannot be
    sent. A url that is not found otherwise is inserted, so that exchange is not the last. -/
def Exchange.failure? (sent : Bool) : Exchange → Option StoreFailure
  | ⟨.findByUrl url, .ok none⟩ => some (disappeared url)
  | ⟨.get _, .ok (some link)⟩ => if sent && !isHeaderValue link.url then some unsendable else none
  | ⟨_, .error failure⟩ => some failure
  | ⟨_, .ok _⟩ => none

/-- The failure that the exchanges of a request amount to. -/
def failureOf? (sent : Bool) (exchanges : List Exchange) : Option StoreFailure :=
  exchanges.getLast?.bind (Exchange.failure? sent)

theorem failureOf?_concat (sent : Bool) (before : List Exchange) (last : Exchange) :
    failureOf? sent (before ++ [last]) = last.failure? sent := by
  simp [failureOf?]

namespace Desk

/-- The failure that a result is refused for, if it is refused for one. -/
def failure? : Except Refusal α → Option StoreFailure
  | .error (.store failure) => some failure
  | _ => none

/-- A result is refused for the failure that the exchanges amount to. The desk reports no errors. -/
structure Settles (sent : Bool) (exchanges : List Exchange) (errors : List Event)
    (result : Except Refusal α) : Prop where
  failure : failure? result = failureOf? sent exchanges
  errors : errors = []

theorem Settles.of_last {sent : Bool} {before : List Exchange} {last : Exchange}
    {result : Except Refusal α} (h : failure? result = last.failure? sent) :
    Settles sent (before ++ [last]) [] result :=
  ⟨h.trans (failureOf?_concat sent before last).symm, rfl⟩

theorem lookUpWinner_traces (sent : Bool) (before : List Exchange) (url : String) :
    (lookUpWinner url).Traces fun exchanges => Settles sent (before ++ exchanges) := by
  intro answer
  rcases answer with failure | _ | id
  · exact .of_last rfl
  · exact .of_last rfl
  · exact .of_last rfl

theorem insertNew_traces (sent : Bool) (before : List Exchange) (url : String) :
    (insertNew url).Traces fun exchanges => Settles sent (before ++ exchanges) := by
  intro answer
  rcases answer with failure | id
  · have winner := lookUpWinner_traces sent (before ++ [⟨.insert url, .error failure⟩]) url
    simp only [List.append_assoc, List.singleton_append] at winner
    dsimp only
    by_cases lost : failure.kind = .conflict
    · rw [if_pos lost]
      exact winner
    · rw [if_neg lost]
      exact .of_last rfl
  · exact .of_last rfl

theorem make_traces (sent : Bool) (url : String) : (make url).Traces (Settles sent) := by
  unfold make
  cases checkUrl url with
  | error fault => exact ⟨rfl, rfl⟩
  | ok _ =>
    intro answer
    rcases answer with failure | _ | id
    · exact ⟨rfl, rfl⟩
    · exact insertNew_traces sent [⟨.findByUrl url, .ok none⟩] url
    · exact ⟨rfl, rfl⟩

end Desk

namespace Gateway

/-- A reply is refused for the failure that the exchanges amount to, and that failure is the one
    error that is reported. -/
structure Accounts (sent : Bool) (exchanges : List Exchange) (errors : List Event)
    (reply : Reply) : Prop where
  failure : reply.failure? = failureOf? sent exchanges
  errors : errors = reply.failure?.toList.map .storeFailed

theorem refuse_traces (sent : Bool) {exchanges : List Exchange} (refusal : Refusal)
    (failure : (Reply.refused refusal).failure? = failureOf? sent exchanges) :
    (refuse refusal).Traces fun more errors reply => Accounts sent (exchanges ++ more) errors reply := by
  cases refusal with
  | store f => exact ⟨by rw [List.append_nil]; exact failure, rfl⟩
  | invalidUrl reason => exact ⟨by rw [List.append_nil]; exact failure, rfl⟩
  | notFound id => exact ⟨by rw [List.append_nil]; exact failure, rfl⟩

theorem display_traces (id : LinkId) : (display id).Traces (Accounts false) := by
  intro answer
  rcases answer with failure | _ | link
  · exact ⟨rfl, rfl⟩
  · exact ⟨rfl, rfl⟩
  · exact ⟨rfl, rfl⟩

theorem follow_traces (id : LinkId) : (follow id).Traces (Accounts true) := by
  intro answer
  rcases answer with failure | _ | link
  · exact ⟨rfl, rfl⟩
  · exact ⟨rfl, rfl⟩
  · have last : failureOf? true [⟨.get id, .ok (some link)⟩] =
        if !isHeaderValue link.url then some unsendable else none := rfl
    let sent := if isHeaderValue link.url then Program.done (Reply.redirect link.url)
      else refuse (.store unsendable)
    suffices sent.Traces fun exchanges errors reply =>
        Accounts true ([⟨.get id, .ok (some link)⟩] ++ exchanges) errors reply from this
    unfold sent
    by_cases fits : isHeaderValue link.url = true
    · rw [if_pos fits]
      refine ⟨?_, rfl⟩
      rw [List.append_nil, last, fits]
      rfl
    · rw [if_neg fits]
      refine refuse_traces true _ ?_
      rw [last, eq_false_of_ne_true fits]
      rfl

theorem make_traces (sent : Bool) (base : Base) (url : String) {kind : Link → String → Reply}
    (gives : LinkReply kind) : (make base url kind).Traces (Accounts sent) := by
  refine (Desk.make_traces sent url).bind fun exchanges errors result settled => ?_
  obtain ⟨failure, rfl⟩ := settled
  cases result with
  | error refusal =>
    refine refuse_traces sent refusal ?_
    rw [← failure]
    cases refusal <;> rfl
  | ok id =>
    refine ⟨?_, ?_⟩
    · rw [List.append_nil, ← failure]
      cases gives <;> rfl
    · cases gives <;> rfl

/-- **Every request accounts for its failure.** -/
theorem answer_traces (base : Base) (r : Request) :
    (answer base r).Traces (Accounts (r.path = ['/'])) := by
  have handled := Handling.of_answer base r
  generalize answer base r = p at handled ⊢
  -- a client is sent on from the root only, so the path tells which look-ups by id may fail late
  cases handled with
  | settled plain =>
    have none := Reply.failure?_of_isSettled plain
    exact ⟨none, by rw [none]; rfl⟩
  | following path =>
    have hpath := Route.path_of_report path
    simp only [hpath, decide_true]
    exact follow_traces _
  | displaying path =>
    have hpath : r.path ≠ ['/'] := by
      intro h
      rw [h] at path
      cases path
    simp only [hpath, decide_false]
    exact display_traces _
  | linking => exact make_traces _ base _ .linked
  | creating => exact make_traces _ base _ .created

/-- What becomes of a failure of the store: it is the one error that is reported, in words, and the
    status of the response is 500 exactly if there is one; then the response is the one for all
    failures, or its head. -/
structure LogsFailure (r : Request) (exchanges : List Exchange) (errors : List Event)
    (response : Response) : Prop where
  errors_eq : errors = (failureOf? (r.path = ['/']) exchanges).toList.map .storeFailed
  status_iff : response.status = .internalError ↔
    ∃ event, errors = [event] ∧ event.message = "permalink storage failure"
  fields_eq : ∀ event ∈ errors, ∃ failure,
    failureOf? (r.path = ['/']) exchanges = some failure ∧
      event.fields = [⟨"error", failure.message, false⟩]
  response_eq : response.status = .internalError →
    response = if r.method = .head then failureResponse.headOnly else failureResponse

theorem Accounts.logsFailure {r : Request} {exchanges : List Exchange} {errors : List Event}
    {reply : Reply} (h : Accounts (r.path = ['/']) exchanges errors reply) :
    LogsFailure r exchanges errors
      (if r.method = .head then reply.response.headOnly else reply.response) := by
  obtain ⟨failure, rfl⟩ := h
  have status : (if r.method = .head then reply.response.headOnly else reply.response).status =
      reply.response.status := by
    split <;> rfl
  have refused := reply.status_eq_internalError_iff
  cases amounts : failureOf? (r.path = ['/']) exchanges with
  | none =>
    rw [amounts] at failure
    have fine : reply.response.status ≠ .internalError := by
      rw [ne_eq, refused, failure]
      decide
    rw [← status] at fine
    refine ⟨by rw [failure, amounts], iff_of_false fine ?_, ?_, fun h => absurd h fine⟩
    · rintro ⟨event, one, -⟩
      rw [failure] at one
      cases one
    · rw [failure]
      nofun
  | some f =>
    rw [amounts] at failure
    have failed : reply.response.status = .internalError := by
      rw [refused, failure]
      rfl
    rw [← status] at failed
    refine ⟨by rw [failure, amounts], iff_of_true failed ?_, ?_, fun _ => ?_⟩
    · exact ⟨.storeFailed f, by rw [failure]; rfl, rfl⟩
    · rw [failure]
      intro event hevent
      obtain rfl := List.mem_singleton.mp hevent
      exact ⟨f, amounts, rfl⟩
    · rw [Reply.response_of_failure failure]

theorem respond_traces (base : Base) (r : Request) :
    (respond base r).Traces (LogsFailure r) := by
  refine (answer_traces base r).bind fun exchanges errors reply accounts => ?_
  show LogsFailure r (exchanges ++ []) (errors ++ []) _
  rw [List.append_nil, List.append_nil]
  exact accounts.logsFailure

/-- **Failures of a store are logged and not told.** Two stores, none of which reports errors of its
    own, are asked what a request asks, and answer alike: the same, or failures that need not be the
    same, of which conflicts of insertions are told from others only. Then the responses are equal.
    And for each of them, status 500 goes with one error that has the failure in words, and with the
    one response to all failures. -/
theorem failures_are_logged_and_not_told (base : Base) (r : Request) {A : Store σ} {B : Store τ}
    {s : σ} {t : τ} (alike : (respond base r).AnsweredAlike A B s t) (quiet : A.Discreet)
    (quiet' : B.Discreet) :
    let here := (respond base r).run A s
    let there := (respond base r).run B t
    here.value = there.value ∧
      LogsFailure r ((respond base r).exchanges A s) (errorsOf here.events) here.value ∧
      LogsFailure r ((respond base r).exchanges B t) (errorsOf there.events) there.value :=
  ⟨(respond_veiled base r).run alike, (respond_traces base r).run quiet s,
    (respond_traces base r).run quiet' t⟩

end Gateway

/-! ## Stores that report no errors -/

theorem Store.Discreet.faulty {store : Store σ} (h : store.Discreet) : store.faulty.Discreet :=
  fun call state e he => h call state.1 e (store.remarks_of_faulty call he)

theorem Backing.discreet : store.Discreet := by
  intro call b e he
  cases b with
  | memory m => cases he
  | database p => cases he
  | closedServer =>
    cases call with
    | get id =>
      obtain rfl := List.mem_singleton.mp he
      exact nofun
    | findByUrl url => cases he
    | insert url => cases he

namespace Gateway

/-- In memory a race is lost to nobody and the server is gone when the winner is looked for; on a
    table the same race is lost, and then the look-up takes too long. -/
theorem failures_are_logged_and_not_told_after_a_lost_race :
    let base : Base := .ofText "http://host/app"
    let r : Request := ⟨.head, "/?make_redir&a=1", [], .empty⟩
    let gone : StoreFailure := ⟨.unavailable, "server is gone"⟩
    let here : Backing × FaultPlan :=
      (.memory .empty, ⟨[.pass, .fail gone], [.fail ⟨.conflict, "one"⟩], []⟩)
    let there : Backing × FaultPlan :=
      (.database .fresh, ⟨[.miss, .fail ⟨.timeout, "too slow"⟩], [.fail ⟨.conflict, "two"⟩], []⟩)
    let store := Backing.store.faulty
    (respond base r).AnsweredAlike store store here there ∧
      ((respond base r).run store here).value = ((respond base r).run store there).value ∧
      ((respond base r).run store here).value = failureResponse.headOnly ∧
      errorsOf ((respond base r).run store here).events = [.storeFailed gone] := by
  intro base r gone here there store
  have alike : (respond base r).AnsweredAlike store store here there := by decide +kernel
  obtain ⟨same, logged, -⟩ := failures_are_logged_and_not_told base r alike
    Backing.discreet.faulty Backing.discreet.faulty
  have amounts : failureOf? (r.path = ['/']) ((respond base r).exchanges store here) = some gone := by
    decide +kernel
  have errors : errorsOf ((respond base r).run store here).events = [.storeFailed gone] := by
    rw [logged.errors_eq, amounts]
    rfl
  have failed : ((respond base r).run store here).value.status = .internalError :=
    logged.status_iff.mpr ⟨_, errors, rfl⟩
  exact ⟨alike, same, logged.response_eq failed, errors⟩

end Gateway

end LinkLedger
