import LinkLedger.Proofs.Address.Accepted
import LinkLedger.Proofs.Crowds
import LinkLedger.Proofs.Gateway.Handling
import LinkLedger.Proofs.Desk.Agreement
import LinkLedger.Proofs.Sessions

/-!
# No request fails inside

A gateway with a new store in memory is sent any requests, one after another or at a time. There are
three ways to an internal error, and none is ever taken.

* A stored url cannot be sent in a header. But the ledger stays *clean*: whatever is written down
  has been accepted (`Ledger.Clean`), and accepted urls can be sent.
* An insertion is refused because the url is there, and then the url is not found. But whoever loses
  a race knows that the url is written down, and links are never taken back (`Desk.make_safe`).
* The store fails otherwise. The ledger never does.

So every request is safe among any others (`respond_safe`). **`no_request_fails_inside`** is what
that comes to for the store in memory, in a row and at a time.
-/

set_option autoImplicit false

namespace LinkLedger

open LinkLedger.Http LinkLedger.Gateway

/-! ## What is kept, and what is never reported -/

/-- Whatever is written down has been accepted. -/
def Ledger.Clean (l : Ledger) : Prop := ∀ link ∈ l.links, checkUrl link.url = .ok ()

theorem Ledger.clean_empty : empty.Clean := by simp [Clean, empty]

theorem Ledger.Clean.push {l : Ledger} (h : l.Clean) {url : String} (ok : checkUrl url = .ok ()) :
    (l.push url).Clean := by
  intro link hlink
  rcases List.mem_append.mp hlink with old | new
  · exact h link old
  · rw [List.mem_singleton.mp new]
    exact ok

/-- Whether an event tells of no failure inside. -/
def Event.isHarmless : Event → Bool
  | .winnerMissing _ | .storeFailed _ => false
  | _ => true

theorem Event.of_isHarmless {e : Event} (h : e.isHarmless = true) :
    e.level ≠ .error ∧ ∀ url, e ≠ .winnerMissing url := by
  cases e <;> simp_all [isHarmless, level]

/-! ## The desk -/

namespace Desk

def Sound {α : Type} (result : Except Refusal α) : Prop :=
  ∀ failure, result ≠ .error (.store failure)

theorem sound_ok {α : Type} (a : α) : Sound (.ok a) := nofun

theorem lookUpWinner_safe {l : Ledger} {url : String} (written : url ∈ l.urls) :
    (lookUpWinner url).Safe Ledger.Clean (·.isHarmless) Sound l := by
  refine .findByUrl fun l' grown _ => ?_
  -- Others may have had their turns since the race was lost, but no link is ever taken back.
  have still : url ∈ l'.urls := (grown.map Link.url).subset written
  cases found : l'.idOf? url with
  | none => exact absurd still (Ledger.idOf?_eq_none_iff.mp found)
  | some id => exact sound_ok id

/-- **Making a link is safe**: a lost race is made good, and what is written down was accepted. -/
theorem make_safe (l : Ledger) (url : String) :
    (make url).Safe Ledger.Clean (·.isHarmless) Sound l := by
  rcases checkUrl_cases url with ok | ⟨fault, bad⟩
  · simp only [make, ok]
    refine .findByUrl fun l' _ _ => ?_
    cases l'.idOf? url with
    | some id => exact ⟨rfl, sound_ok id⟩
    | none =>
      refine .insert (fun l'' _ _ written => ?_) fun l'' _ clean _ => ?_
      · exact ⟨rfl, lookUpWinner_safe written⟩
      · exact ⟨clean.push ok, rfl, sound_ok _⟩
  · rw [make_of_error bad]
    intro failure same
    cases same

/-- **Resolving an id is safe**, and leads to an accepted url. -/
theorem resolve_safe (l : Ledger) (id : LinkId) :
    (resolve id).Safe Ledger.Clean (·.isHarmless)
      (fun result => Sound result ∧ ∀ url, result = .ok url → checkUrl url = .ok ()) l := by
  refine ⟨rfl, .get fun l' _ clean => ?_⟩
  cases found : l'.get? id with
  | none => exact ⟨rfl, nofun, nofun⟩
  | some link =>
    refine ⟨rfl, sound_ok _, fun url h => ?_⟩
    cases h
    exact clean link (Ledger.mem_of_get?_eq_some found).1

theorem resolve_within (id : LinkId) : (resolve id).Within 3 := by
  rintro (failure | _ | link) <;> exact trivial

end Desk

/-! ## The gateway -/

namespace Gateway

def Reply.Unfailing (reply : Reply) : Prop := ∀ failure, reply ≠ .refused (.store failure)

theorem Reply.Unfailing.status_ne {reply : Reply} (h : reply.Unfailing) :
    reply.response.status ≠ .internalError := by
  cases reply with
  | refused refusal =>
    cases refusal with
    | store failure => exact absurd rfl (h failure)
    | invalidUrl reason => exact nofun
    | notFound id => exact nofun
  | unreadable problem =>
    simp only [response, unreadableResponse]
    split <;> exact nofun
  | _ => exact nofun

theorem Reply.unfailing_of_isSettled {reply : Reply} (h : reply.isSettled = true) :
    reply.Unfailing := by
  rintro failure rfl
  cases h

theorem refuse_safe {l : Ledger} {refusal : Refusal} (sound : ∀ failure, refusal ≠ .store failure) :
    (refuse refusal).Safe Ledger.Clean (·.isHarmless) Reply.Unfailing l := by
  cases refusal with
  | store failure => exact absurd rfl (sound failure)
  | invalidUrl reason => exact nofun
  | notFound id => exact nofun

theorem follow_safe (l : Ledger) (id : LinkId) :
    (follow id).Safe Ledger.Clean (·.isHarmless) Reply.Unfailing l := by
  refine (Desk.resolve_safe l id).bind fun result l' good _ => ?_
  obtain ⟨sound, accepted⟩ := good
  cases result with
  | error refusal => exact refuse_safe fun failure h => sound failure (congrArg _ h)
  | ok url =>
    -- The url that was found was accepted once, so it can be sent.
    have sendable : isHeaderValue url = true := isHeaderValue_of_accepted (accepted url rfl)
    simp only [Program.bind_eq, Program.note, Program.bind, sendable, if_true]
    refine ⟨rfl, fun failure same => ?_⟩
    cases same

theorem display_safe (l : Ledger) (id : LinkId) :
    (display id).Safe Ledger.Clean (·.isHarmless) Reply.Unfailing l := by
  refine (Desk.resolve_safe l id).bind fun result l' good _ => ?_
  cases result with
  | error refusal => exact refuse_safe fun failure h => good.1 failure (congrArg _ h)
  | ok url => exact nofun

theorem make_safe (l : Ledger) (base : Base) (url : String) {reply : Link → String → Reply}
    (unfailing : ∀ link permalink, (reply link permalink).Unfailing) :
    (make base url reply).Safe Ledger.Clean (·.isHarmless) Reply.Unfailing l := by
  refine (Desk.make_safe l url).bind fun result l' sound _ => ?_
  cases result with
  | error refusal => exact refuse_safe fun failure h => sound failure (congrArg _ h)
  | ok id => exact unfailing _ _

theorem respond_safe (l : Ledger) (base : Base) (r : Request) :
    (respond base r).Safe Ledger.Clean (·.isHarmless)
      (fun response => response.status ≠ .internalError) l := by
  have answered : (answer base r).Safe Ledger.Clean (·.isHarmless) Reply.Unfailing l := by
    have handled := Handling.of_answer base r
    generalize answer base r = p at handled ⊢
    cases handled with
    | settled plain => exact Reply.unfailing_of_isSettled plain
    | following => exact follow_safe l _
    | displaying => exact display_safe l _
    | linking => exact make_safe l base _ nofun
    | creating => exact make_safe l base _ nofun
  refine answered.bind fun reply l' unfailing _ => ?_
  show Response.status (if r.method = .head then reply.response.headOnly else reply.response) ≠ _
  split
  · exact unfailing.status_ne
  · exact unfailing.status_ne

/-! ## Everybody's turns -/

theorem refuse_within (refusal : Refusal) : (refuse refusal).Within 1 := by
  cases refusal <;> exact trivial

/-- A request takes at most six steps: five to make a link, and one to report a failure. -/
theorem respond_within (base : Base) (r : Request) : (respond base r).Within 6 := by
  have answered : (answer base r).Within 6 := by
    have handled := Handling.of_answer base r
    generalize answer base r = p at handled ⊢
    have made : ∀ (url : String) (reply : Link → String → Reply),
        (make base url reply).Within 6 := by
      intro url reply
      refine (Desk.make_within url).bind fun result => ?_
      cases result with
      | error refusal => exact refuse_within refusal
      | ok id => exact trivial
    cases handled with
    | settled plain => exact trivial
    | linking => exact made _ _
    | creating => exact made _ _
    | displaying =>
      refine ((Desk.resolve_within _).bind fun result => ?_).mono (show 1 + 3 ≤ 6 by decide)
      cases result with
      | error refusal => exact refuse_within refusal
      | ok url => exact trivial
    | following =>
      refine ((Desk.resolve_within _).bind fun result => ?_).mono (show 2 + 3 ≤ 6 by decide)
      cases result with
      | error refusal => exact (refuse_within refusal).mono (by decide)
      | ok url =>
        show Program.Within 1 (if isHeaderValue url then _ else _)
        split
        · exact trivial
        · exact refuse_within _
  have last : ∀ reply : Reply, Program.Within 0 (Program.done
      (if r.method = .head then reply.response.headOnly else reply.response)) := fun _ => trivial
  exact answered.bind last

/-! ## Whatever is sent -/

section

variable (base : Base) (requests : List Request)

/-- One after another, every request has a response, and it tells of no failure inside. -/
theorem responds_in_a_row {i : Nat} (hi : i < requests.length) :
    ∃ response events,
      (Session.use (.memory .empty) base (requests.map .send)).2[i]? =
        some (.response response, events) ∧
      response.status ≠ .internalError ∧ ∀ e ∈ events, e.isHarmless = true := by
  have safe : ∀ p ∈ (requests.map Operation.send).map (Operation.program base),
      ∀ l, p.Safe Ledger.Clean (·.isHarmless) (fun outcome =>
        ∃ response, outcome = .response response ∧ response.status ≠ .internalError) l := by
    intro p hp l
    obtain ⟨o, ho, rfl⟩ := List.mem_map.mp hp
    obtain ⟨r, -, rfl⟩ := List.mem_map.mp ho
    exact (respond_safe l _ r).bind fun response _ unfailing _ => ⟨response, rfl, unfailing⟩
  -- The session does what the ledger does, and on the ledger programs are safe in a row.
  obtain ⟨m, -, ran⟩ := Session.run_memory base (requests.map .send)
  have inside : i < (Session.onLedger base (requests.map .send)).2.length := by simpa using hi
  obtain ⟨⟨response, value, unfailing⟩, harmless⟩ :=
    Program.Safe.runAll _ safe Ledger.clean_empty _ (List.getElem_mem inside)
  refine ⟨response, _, ?_, unfailing, harmless⟩
  rw [ran, ← value]
  exact List.getElem?_eq_getElem inside

/-- At a time, no response and no event tells of a failure inside. -/
theorem responds_at_a_time (schedule : List Nat) :
    let c := (Crowd.gather (requests.map (respond base)) Indexes.empty).run Indexes.store schedule
    (∀ (i : Nat) response, c.members[i]? = some (.done response) →
      response.status ≠ .internalError) ∧ ∀ e ∈ c.events, e.isHarmless = true := by
  intro c
  have start : (Crowd.gather (requests.map (respond base)) Ledger.empty).Safe
      Ledger.Clean (·.isHarmless) (fun response => response.status ≠ .internalError) := by
    refine ⟨Ledger.clean_empty, fun p hp => ?_, fun e he => absurd he List.not_mem_nil⟩
    obtain ⟨r, -, rfl⟩ := List.mem_map.mp hp
    exact respond_safe _ _ r
  have safe := start.run schedule
  obtain ⟨members, events, -⟩ := Indexes.lockstep.crowd schedule
    (c := Crowd.gather (requests.map (respond base)) Indexes.empty)
    (d := Crowd.gather (requests.map (respond base)) Ledger.empty)
    rfl rfl Indexes.holds_empty trivial
  exact ⟨fun i response done => safe.of_done (members ▸ done),
    fun e he => safe.events e (events ▸ he)⟩

/-- Whoever has had six turns has a response. -/
theorem responds_after_six_turns {schedule : List Nat} {i : Nat} (hi : i < requests.length)
    (turns : 6 ≤ schedule.count i) :
    ∃ response, ((Crowd.gather (requests.map (respond base)) Indexes.empty).run
      Indexes.store schedule).members[i]? = some (.done response) := by
  have member : (Crowd.gather (requests.map (respond base)) Indexes.empty).members[i]? =
      some (respond base requests[i]) := by
    simp [Crowd.gather, hi]
  exact Crowd.done_of_turns Indexes.store member (respond_within _ _) turns

end

/-- **No request fails inside.** Requests of any kind are sent to a gateway with a new store in
    memory, at any address. One after another, each has a response that is no internal error. At a
    time, in any order of turns, no response is one, and everybody who has had six turns has a
    response. No error is ever reported, neither of a url that cannot be sent nor of any other
    failure of the store, and no winner of a race is ever missing. -/
theorem no_request_fails_inside (address : String) (requests : List Request) :
    (∀ i < requests.length, ∃ response events,
      (Session.use (.memory .empty) (.ofText address) (requests.map .send)).2[i]? =
        some (.response response, events) ∧
      response.status ≠ .internalError ∧
      ∀ e ∈ events, e.level ≠ .error ∧ ∀ url, e ≠ .winnerMissing url) ∧
    ∀ schedule : List Nat,
      let c := (Crowd.gather (requests.map (respond (.ofText address))) Indexes.empty).run
        Indexes.store schedule
      (∀ (i : Nat) response, c.members[i]? = some (.done response) →
        response.status ≠ .internalError) ∧
      (∀ i < requests.length, 6 ≤ schedule.count i →
        ∃ response, c.members[i]? = some (.done response)) ∧
      ∀ e ∈ c.events, e.level ≠ .error ∧ ∀ url, e ≠ .winnerMissing url := by
  constructor
  · intro i hi
    obtain ⟨response, events, answered, unfailing, harmless⟩ :=
      responds_in_a_row (.ofText address) requests hi
    exact ⟨response, events, answered, unfailing, fun e he => Event.of_isHarmless (harmless e he)⟩
  · intro schedule c
    obtain ⟨unfailing, harmless⟩ := responds_at_a_time (.ofText address) requests schedule
    exact ⟨unfailing, fun i hi turns => responds_after_six_turns _ requests hi turns,
      fun e he => Event.of_isHarmless (harmless e he)⟩

/-- Two requests race for the link to a url while a third follows the first link there may be. After
    six turns each, all three have a response, and none of them is an internal error. -/
theorem no_request_fails_inside_a_race :
    let racing : Request := ⟨.post, "/v1/permalinks", [("content-type", "application/json")],
      "\x7b\"url\": \"http://c.d/\"\x7d".toByteArray⟩
    let requests := [racing, racing, ⟨.get, "/?do_redir=1", [], .empty⟩]
    let c := (Crowd.gather (requests.map (respond (.ofText "https://a.b/r"))) Indexes.empty).run
      Indexes.store (List.replicate 6 [0, 1, 2]).flatten
    ∀ i < 3, ∃ response, c.members[i]? = some (.done response) ∧
      response.status ≠ .internalError := by
  intro racing requests c i hi
  have turns : ∀ i < 3, 6 ≤ (List.replicate 6 [0, 1, 2]).flatten.count i := by decide
  obtain ⟨fails, done, -⟩ := (no_request_fails_inside "https://a.b/r" requests).2
    (List.replicate 6 [0, 1, 2]).flatten
  obtain ⟨response, hresponse⟩ := done i hi (turns i hi)
  exact ⟨response, hresponse, fails i response hresponse⟩

end Gateway

end LinkLedger
