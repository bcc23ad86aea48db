import LinkLedger.Proofs.Desk.Runs
import LinkLedger.Proofs.Gateway.Handling
import LinkLedger.Proofs.Json.Written

/-!
# Where a link in a response comes from

`Response.Carries` is what a client can see: a good status, and the JSON of a link and of the url
that follows it. From that alone it follows what happened: JSON tells what was written, so the reply
was one of the two that give a link (`Reply.of_carries`); only `make` replies so
(`answer_makes_or_gives_none`); and `make` does so only once the desk has the url written down.

**`of_carries`: who is given a link has it written down**, and is given it again.
-/

set_option autoImplicit false

namespace LinkLedger

open LinkLedger.Http LinkLedger.Json LinkLedger.Gateway

/-- A response of status 200 or 201 with a link and the url that follows it. -/
def Http.Response.Carries (response : Response) (link : Link) (permalink : String) : Prop :=
  (response.status = .ok ∨ response.status = .created) ∧ response.body = linkJson link permalink

namespace Gateway

/-! ## Replies that give a link -/

/-- Whether a reply gives a link that was asked for. -/
def Reply.givesLink : Reply → Bool
  | .linked _ _ | .created _ _ => true
  | _ => false

theorem Reply.givesLink_of_isSettled {reply : Reply} (h : reply.isSettled = true) :
    reply.givesLink = false := by
  cases reply <;> simp_all [isSettled, givesLink]

/-- The two replies that `make` is used with. -/
inductive LinkReply : (Link → String → Reply) → Prop
  | linked : LinkReply .linked
  | created : LinkReply .created

theorem linkJson_inj {link link' : Link} {permalink permalink' : String}
    (h : linkJson link permalink = linkJson link' permalink') :
    link = link' ∧ permalink = permalink' := by
  obtain ⟨⟨word⟩, url⟩ := link
  obtain ⟨⟨word'⟩, url'⟩ := link'
  have hmembers := writeObject_inj h
  simp only [List.cons.injEq, Prod.mk.injEq, Value.number.injEq, Value.string.injEq, true_and,
    and_true] at hmembers
  obtain ⟨hword, rfl, rfl⟩ := hmembers
  rw [UInt64.toNat_inj.mp hword]
  exact ⟨rfl, rfl⟩

/-- A response that carries a link comes from a reply that gives it. -/
theorem Reply.of_carries {reply : Reply} {link : Link} {permalink : String}
    (h : reply.response.Carries link permalink) :
    reply = .linked link permalink ∨ reply = .created link permalink := by
  obtain ⟨status, body⟩ := h
  cases reply with
  | linked link' permalink' =>
    obtain ⟨rfl, rfl⟩ := linkJson_inj body
    exact .inl rfl
  | created link' permalink' =>
    obtain ⟨rfl, rfl⟩ := linkJson_inj body
    exact .inr rfl
  | healthy => simpa using writeObject_inj body
  | shown link' => simpa using writeObject_inj body
  | refused refusal =>
    cases refusal <;> simp [Reply.response, refusalResponse, Response.json] at status
  | unreadable problem =>
    simp only [Reply.response, unreadableResponse] at status
    split at status <;> simp [Response.plain] at status
  | _ => simp [Reply.response, Response.json, Response.plain, Response.empty] at status

/-! ## What handlers can reply -/

theorem refuse_replies (refusal : Refusal) :
    (refuse refusal).Always fun reply => reply = .refused refusal := by
  cases refusal <;> exact rfl

/-- A handler gives the reply that it is for, or it refuses. -/
def GivesOrRefuses (gives : Reply → Prop) (reply : Reply) : Prop :=
  gives reply ∨ ∃ refusal, reply = .refused refusal

theorem refuse_givesOrRefuses (refusal : Refusal) (gives : Reply → Prop) :
    (refuse refusal).Always (GivesOrRefuses gives) :=
  (refuse_replies refusal).mono fun _ refused => .inr ⟨refusal, refused⟩

theorem follow_replies (id : LinkId) :
    (follow id).Always (GivesOrRefuses fun reply => ∃ url, reply = .redirect url) := by
  apply Program.Always.bind
  intro result
  cases result with
  | error refusal => exact refuse_givesOrRefuses refusal _
  | ok url =>
    apply Program.Always.bind
    intro _
    -- The url may not be fit for a header; then the request is refused.
    split
    · exact .inl ⟨url, rfl⟩
    · exact refuse_givesOrRefuses _ _

theorem display_replies (id : LinkId) :
    (display id).Always (GivesOrRefuses fun reply => ∃ link, reply = .shown link) := by
  apply Program.Always.bind
  intro result
  cases result with
  | error refusal => exact refuse_givesOrRefuses refusal _
  | ok url => exact .inl ⟨_, rfl⟩

theorem make_replies (base : Base) (url : String) (kind : Link → String → Reply) :
    (make base url kind).Always
      (GivesOrRefuses fun reply => ∃ link permalink, reply = kind link permalink) := by
  apply Program.Always.bind
  intro result
  cases result with
  | error refusal => exact refuse_givesOrRefuses refusal _
  | ok id => exact .inl ⟨_, _, rfl⟩

/-! ## What following replies -/

theorem refuse_run_value {σ : Type} (store : Store σ) (s : σ) (refusal : Refusal) :
    ((refuse refusal).run store s).value = .refused refusal :=
  (refuse_replies refusal).run store s

/-- The reply to a request to follow an id, once the store has been asked. -/
def followed (id : LinkId) : Except StoreFailure (Option Link) → Reply
  | .error failure => .refused (.store failure)
  | .ok none => .refused (.notFound id)
  | .ok (some link) =>
    if isHeaderValue link.url then .redirect link.url else .refused (.store unsendable)

theorem follow_run_value {σ : Type} (store : Store σ) (s : σ) (id : LinkId) :
    ((follow id).run store s).value = followed id (store.answer (.get id) s).1 := by
  simp only [follow, Program.bind_eq, Program.run_bind, Desk.resolve_run_value]
  rcases (store.answer (.get id) s).1 with failure | _ | link
  · exact refuse_run_value _ _ _
  · exact refuse_run_value _ _ _
  · simp only [Desk.resolved, followed, Program.run_bind]
    split
    · rfl
    · exact refuse_run_value _ _ _

/-! ## Handlers that make links -/

/-- A program that makes a link and replies with it, or that gives none whatever it is answered. -/
def MakesOrGivesNone (base : Base) (p : Program Reply) : Prop :=
  (∃ url reply, LinkReply reply ∧ p = make base url reply) ∨
    p.Always fun reply => reply.givesLink = false

/-- **Every request either makes a link or gives none.** -/
theorem answer_makes_or_gives_none (base : Base) (r : Request) :
    MakesOrGivesNone base (answer base r) := by
  have handled := Handling.of_answer base r
  generalize answer base r = p at handled ⊢
  cases handled with
  | settled plain => exact .inr (Reply.givesLink_of_isSettled plain)
  | following =>
    refine .inr ((follow_replies _).mono ?_)
    rintro _ (⟨url, rfl⟩ | ⟨refusal, rfl⟩) <;> rfl
  | displaying =>
    refine .inr ((display_replies _).mono ?_)
    rintro _ (⟨link, rfl⟩ | ⟨refusal, rfl⟩) <;> rfl
  | linking => exact .inl ⟨_, _, .linked, rfl⟩
  | creating => exact .inl ⟨_, _, .created, rfl⟩

/-! ## Links that are made -/

section

variable {l : Ledger}

/-- Where the desk gives an id, the reply gives the link. -/
theorem make_run_of_ok (base : Base) {url : String} (reply : Link → String → Reply) {id : LinkId}
    (h : ((Desk.make url).run Ledger.store l).value = .ok id) :
    ((make base url reply).run Ledger.store l).value = reply ⟨id, url⟩ (base.permalink id) ∧
      ((make base url reply).run Ledger.store l).state =
        ((Desk.make url).run Ledger.store l).state := by
  rw [make, Program.bind_eq, Program.run_bind, h]
  exact ⟨rfl, rfl⟩

/-- Where the desk refuses, no link is given. -/
theorem make_run_of_error (base : Base) {url : String} (reply : Link → String → Reply)
    {refusal : Refusal} (h : ((Desk.make url).run Ledger.store l).value = .error refusal) :
    ((make base url reply).run Ledger.store l).value.givesLink = false := by
  rw [make, Program.bind_eq, Program.run_bind, h]
  exact congrArg Reply.givesLink (refuse_run_value Ledger.store _ refusal)

/-- The response to a request is that of the reply, or its head. -/
theorem respond_run (base : Base) (r : Request) {σ : Type} (store : Store σ) (s : σ) :
    (respond base r).run store s =
      ⟨if r.method = .head then ((answer base r).run store s).value.response.headOnly
        else ((answer base r).run store s).value.response,
        ((answer base r).run store s).state, ((answer base r).run store s).events⟩ := by
  simp [respond, Program.run_bind]

/-- The whole response, if that was asked for. -/
theorem respond_run_get (base : Base) {r : Request} (get : r.method = .get) {σ : Type}
    (store : Store σ) (s : σ) :
    (respond base r).run store s =
      ⟨((answer base r).run store s).value.response, ((answer base r).run store s).state,
        ((answer base r).run store s).events⟩ := by
  have whole : r.method ≠ .head := by
    rw [get]
    decide
  rw [respond_run, if_neg whole]

/-- **Who is given a link has it written down.** The url was accepted, the other url in the response
    is the permanent link of the id, and whenever the desk gives the same id for the url again, the
    response to the same request is the same. -/
theorem of_carries {base : Base} {r : Request} {response : Response} {link : Link}
    {permalink : String} (hresponse : ((respond base r).run Ledger.store l).value = response)
    (h : response.Carries link permalink) :
    checkUrl link.url = .ok () ∧ link ∈ ((respond base r).run Ledger.store l).state.links ∧
      permalink = base.permalink link.id ∧
      ∀ l', ((Desk.make link.url).run Ledger.store l').value = .ok link.id →
        ((respond base r).run Ledger.store l').value = response := by
  rw [respond_run] at hresponse
  by_cases hhead : r.method = .head
  · -- The head of a response has no body, so it carries nothing.
    rw [if_pos hhead] at hresponse
    have hempty : linkJson link permalink = "" := by rw [← h.2, ← hresponse, Response.headOnly]
    simp [linkJson, writeObject] at hempty
  rw [if_neg hhead] at hresponse
  have hreply := Reply.of_carries (hresponse ▸ h)
  have hgives : ((answer base r).run Ledger.store l).value.givesLink = true := by
    rcases hreply with heq | heq <;> rw [heq] <;> rfl
  rcases answer_makes_or_gives_none base r with ⟨url, reply, hkind, hmake⟩ | hnone
  · rw [hmake] at hreply hgives hresponse
    cases hdesk : ((Desk.make url).run Ledger.store l).value with
    | error refusal =>
      rw [make_run_of_error base reply hdesk] at hgives
      cases hgives
    | ok id =>
      obtain ⟨hvalue, hstate⟩ := make_run_of_ok base reply hdesk
      obtain ⟨ok, written⟩ := Desk.of_make_run_eq_ok hdesk
      have hlink : link = ⟨id, url⟩ ∧ permalink = base.permalink id := by
        rw [hvalue] at hreply
        cases hkind <;> simpa [eq_comm] using hreply
      obtain ⟨rfl, rfl⟩ := hlink
      refine ⟨ok, ?_, rfl, fun l' hdesk' => ?_⟩
      · rw [respond_run, hmake, hstate]
        exact written
      · rw [respond_run, if_neg hhead, hmake, (make_run_of_ok base reply hdesk').1, ← hvalue]
        exact hresponse
  · rw [hnone.run Ledger.store l] at hgives
    cases hgives

end

end Gateway

end LinkLedger
