import LinkLedger.Proofs.Gateway.Replies
import LinkLedger.Proofs.Store.Faults
import LinkLedger.Proofs.Store.Lawful
import LinkLedger.Store.Backing

/-!
# Redirects only go where links point

Only one kind of reply sends a client anywhere (`Reply.destination?`), only a request to follow a
link is replied to so (`follows_or_goes_nowhere`), and then the client is sent to what the store has
under the id (`Backing.leadsTo_of_get`), provided that it fits into a header (`followed`). So
whatever the store holds, **no request is sent on to anything else**
(`redirects_lead_where_links_point`).
-/

set_option autoImplicit false

namespace LinkLedger

open LinkLedger.Http LinkLedger.Gateway

/-! ## What the store has under an id -/

/-- A url is kept under an id. -/
def Backing.LeadsTo (id : LinkId) (url : String) : Backing → Prop
  | memory m => m.byId.lookup id = some url
  | database p => ∃ t, p.database.table = some t ∧ (Link.mk id url).row ∈ t.rows
  | closedServer => False

/-- What is found by id is kept in a row, even where several rows have one key. -/
theorem Pool.row_of_get {p : Pool} {id : LinkId} {link : Link}
    (found : p.get id = .ok (some link)) :
    link.id = id ∧ ∃ t, p.database.table = some t ∧ link.row ∈ t.rows := by
  unfold get at found
  split at found
  · cases found
  next key hkey =>
  obtain ⟨t, table, found⟩ := Database.of_reading_eq_ok (Pool.of_reading_eq_ok found).2
  split at found
  · cases found
  next row hrow =>
  cases read : row.cell.url with
  | error e => simp [read, Except.map] at found
  | ok url =>
    simp only [read, Except.map, Except.ok.injEq, Option.some.injEq] at found
    subst found
    have key_eq : row.key = key := by simpa using List.find?_some hrow
    have mem : row ∈ t.rows := List.mem_of_find?_eq_some hrow
    have same : (Link.mk id url).row = row :=
      Link.row_eq (key_eq.trans (LinkId.eq_of_key? hkey)) (Cell.url_eq_ok_iff.mp read)
    exact ⟨rfl, t, table, same ▸ mem⟩

theorem Backing.leadsTo_of_get {b : Backing} {id : LinkId} {link : Link}
    (found : (store.answer (.get id) b).1 = .ok (some link)) : b.LeadsTo id link.url := by
  cases b with
  | memory m =>
    have got : (m.byId.lookup id).map (fun url => Link.mk id url) = some link := Except.ok.inj found
    obtain ⟨url, there, rfl⟩ := Option.map_eq_some_iff.mp got
    exact there
  | database p =>
    obtain ⟨rfl, hrow⟩ := Pool.row_of_get (Pool.outcome_eq_ok_iff.mp found)
    exact hrow
  | closedServer => cases found

/-! ## Headers -/

/-- A response with a status that sends the client nowhere. -/
def Http.Response.Refuses (response : Response) (status : Status) : Prop :=
  response.status = status ∧ response.location = none

theorem Http.isHeaderByte_iff {byte : UInt8} :
    isHeaderByte byte = true ↔ (0x20 ≤ byte ∨ byte = 0x09) ∧ byte ≠ 0x7F := by
  by_cases tab : byte = 0x09
  · subst tab
    decide
  · simp [isHeaderByte, tab]

namespace Gateway

/-! ## Replies that send the client on -/

/-- Where a reply sends the client. -/
def Reply.destination? : Reply → Option String
  | .redirect url => some url
  | _ => none

theorem Reply.location_eq (reply : Reply) : reply.response.location = reply.destination? := by
  cases reply with
  | refused refusal => cases refusal <;> rfl
  | unreadable problem =>
    simp only [response, unreadableResponse]
    split <;> rfl
  | _ => rfl

theorem Reply.status_eq_found_iff (reply : Reply) :
    reply.response.status = .found ↔ reply.destination?.isSome = true := by
  cases reply with
  | refused refusal =>
    cases refusal <;> simp [response, refusalResponse, Response.json, destination?]
  | unreadable problem =>
    simp only [response, unreadableResponse]
    split <;> simp [Response.plain, destination?]
  | _ => simp [response, Response.json, Response.plain, Response.empty, destination?]

theorem Reply.destination?_of_isSettled {reply : Reply} (h : reply.isSettled = true) :
    reply.destination? = none := by
  cases reply <;> simp_all [isSettled, destination?]

/-! ## Requests that send the client on -/

theorem of_followed_destination {id : LinkId} {got : Except StoreFailure (Option Link)}
    {url : String} (h : (followed id got).destination? = some url) :
    isHeaderValue url = true ∧ ∃ link, got = .ok (some link) ∧ link.url = url := by
  rcases got with failure | _ | link
  · cases h
  · cases h
  · simp only [followed] at h
    split at h
    · next fits =>
      cases h
      exact ⟨fits, link, rfl, rfl⟩
    · cases h

/-- **A request follows the link that it asks for, or the client is sent nowhere.** -/
theorem follows_or_goes_nowhere (base : Base) (r : Request) :
    (∃ value id, AsksToFollow r value ∧ LinkId.parse value = .ok id ∧ answer base r = follow id) ∨
      (answer base r).Always fun reply => reply.destination? = none := by
  have handled := Handling.of_answer base r
  generalize answer base r = p at handled ⊢
  cases handled with
  | settled plain => exact .inr (Reply.destination?_of_isSettled plain)
  | displaying =>
    refine .inr ((display_replies _).mono ?_)
    rintro _ (⟨link, rfl⟩ | ⟨refusal, rfl⟩) <;> rfl
  | linking | creating =>
    refine .inr ((make_replies base _ _).mono ?_)
    rintro _ (⟨link, permalink, rfl⟩ | ⟨refusal, rfl⟩) <;> rfl
  | following path method asked read =>
    refine .inl ⟨_, _, ⟨?_, ?_, asked⟩, read, rfl⟩
    · exact Route.path_of_report path
    · simpa [Route.methods] using method

/-! ## Responses -/

section

variable {σ : Type} (store : Store σ) (s : σ) (base : Base) {r : Request}

theorem respond_location (r : Request) :
    ((respond base r).run store s).value.location =
      ((answer base r).run store s).value.destination? := by
  rw [respond_run, ← Reply.location_eq]
  split <;> rfl

theorem respond_status (r : Request) :
    ((respond base r).run store s).value.status =
      ((answer base r).run store s).value.response.status := by
  rw [respond_run]
  split <;> rfl

/-- A location was asked for by its id, found by the store, and is fit for a header. -/
theorem of_respond_location {url : String}
    (there : ((respond base r).run store s).value.location = some url) :
    ∃ value id, AsksToFollow r value ∧ LinkId.parse value = .ok id ∧
      isHeaderValue url = true ∧
      ∃ link, (store.answer (.get id) s).1 = .ok (some link) ∧ link.url = url := by
  rw [respond_location] at there
  obtain ⟨value, id, asks, read, answered⟩ | nowhere := follows_or_goes_nowhere base r
  · rw [answered, follow_run_value] at there
    exact ⟨value, id, asks, read, of_followed_destination there⟩
  · cases (nowhere.run store s).symm.trans there

theorem respond_malformed {value : String} (asks : AsksToFollow r value) {fault : IdFault}
    (bad : LinkId.parse value = .error fault) :
    ((respond base r).run store s).value.Refuses .badRequest := by
  rw [Response.Refuses, respond_status, respond_location, answer_of_asksToFollow base asks, withId,
    bad]
  exact ⟨rfl, rfl⟩

/-- What becomes of a request to follow an id depends on nothing but what is found under the id. -/
theorem respond_followed {value : String} (asks : AsksToFollow r value) {id : LinkId}
    (read : LinkId.parse value = .ok id) :
    ((respond base r).run store s).value.status =
        (followed id (store.answer (.get id) s).1).response.status ∧
      ((respond base r).run store s).value.location =
        (followed id (store.answer (.get id) s).1).destination? := by
  have answered : answer base r = follow id := by
    rw [answer_of_asksToFollow base asks, withId, read]
  rw [respond_status, respond_location, answered, follow_run_value]
  exact ⟨rfl, rfl⟩

end

/-- **Redirects only go where links point**, whatever the store holds, whatever faults there are and
    whatever is requested:

    * a response has a location exactly if its status is 302;
    * then the request is to follow an id, the location is a url that is kept under the id, and no
      byte of it is a control other than the tab;
    * a request to follow an id is refused, without a location, if its text writes no id (400), if
      nothing is found under the id (404), if the store fails (500) and if what is found is not fit
      for a header (500); otherwise the client is sent to what is found. -/
theorem redirects_lead_where_links_point (base : Base) (r : Request) (b : Backing)
    (plan : FaultPlan) :
    let response := ((respond base r).run Backing.store.faulty (b, plan)).value
    (response.location.isSome = true ↔ response.status = .found) ∧
    (∀ url, response.location = some url → ∃ value id, AsksToFollow r value ∧
      LinkId.parse value = .ok id ∧ b.LeadsTo id url ∧
      ∀ byte ∈ url.toByteArray.toList, (0x20 ≤ byte ∨ byte = 0x09) ∧ byte ≠ 0x7F) ∧
    ∀ value, AsksToFollow r value →
      (∀ fault, LinkId.parse value = .error fault → response.Refuses .badRequest) ∧
      ∀ id, LinkId.parse value = .ok id →
        let got := (Backing.store.faulty.answer (.get id) (b, plan)).1
        (got = .ok none → response.Refuses .notFound) ∧
        (∀ failure, got = .error failure → response.Refuses .internalError) ∧
        ∀ link, got = .ok (some link) →
          if isHeaderValue link.url then
            response.status = .found ∧ response.location = some link.url
          else response.Refuses .internalError := by
  intro response
  refine ⟨?_, ?_, ?_⟩
  · rw [respond_location, respond_status, Reply.status_eq_found_iff]
  · intro url there
    obtain ⟨value, id, asks, read, fits, link, got, rfl⟩ := of_respond_location _ _ _ there
    have found := Backing.store.of_faulty_answer_eq_ok (.get id) got (by simp [Call.nothing?])
    refine ⟨value, id, asks, read, Backing.leadsTo_of_get found, fun byte hbyte => ?_⟩
    exact isHeaderByte_iff.mp (List.all_eq_true.mp fits byte hbyte)
  · intro value asks
    refine ⟨fun fault bad => respond_malformed _ _ base asks bad, fun id read => ?_⟩
    obtain ⟨status, location⟩ :=
      respond_followed Backing.store.faulty (b, plan) base asks read
    refine ⟨fun got => ?_, fun failure got => ?_, fun link got => ?_⟩
    · rw [got] at status location
      exact ⟨status, location⟩
    · rw [got] at status location
      exact ⟨status, location⟩
    · rw [got, followed] at status location
      by_cases fits : isHeaderValue link.url = true
      · rw [if_pos fits] at status location ⊢
        exact ⟨status, location⟩
      · rw [if_neg fits] at status location ⊢
        exact ⟨status, location⟩

/-- Two rows were planted by hand, and the url of the second one would begin another header. The
    first parameter that asks to follow an id decides, however it is spelt. -/
theorem redirects_lead_where_links_point_past_a_planted_header :
    let rows : List Row := [⟨1, .ofUrl "http://a.b/"⟩, ⟨2, .ofUrl "http://a.b/\r\nx: y"⟩]
    let b : Backing := .database ⟨⟨some ⟨rows, 2⟩⟩, .ready⟩
    let request (query : String) : Request := ⟨.head, "/?" ++ query, [], .empty⟩
    let response (query : String) : Response :=
      ((respond (.ofText "") (request query)).run Backing.store.faulty (b, .none)).value
    (response "do%5Fredir=001&do_redir=2").location = some "http://a.b/" ∧
    (response "do_redir=2").Refuses .internalError ∧
    (response "do_redir=3&make_redir=y").Refuses .notFound ∧
    (response "do_redir=%2B1").Refuses .badRequest := by
  intro rows b request response
  have follows := fun query value asked =>
    (redirects_lead_where_links_point (.ofText "") (request query) b .none).2.2 value asked
  refine ⟨?_, ?_, ?_, ?_⟩
  · have asked : AsksToFollow (request "do%5Fredir=001&do_redir=2") "001" :=
      ⟨by decide, .inr rfl, by decide +kernel⟩
    have sent := ((follows _ _ asked).2 ⟨1⟩ (by decide)).2.2 ⟨⟨1⟩, "http://a.b/"⟩
      (by decide +kernel)
    rw [if_pos (by decide +kernel)] at sent
    exact sent.2
  · have asked : AsksToFollow (request "do_redir=2") "2" :=
      ⟨by decide, .inr rfl, by decide +kernel⟩
    have refused := ((follows _ _ asked).2 ⟨2⟩ (by decide)).2.2 ⟨⟨2⟩, "http://a.b/\r\nx: y"⟩
      (by decide +kernel)
    rwa [if_neg (by decide +kernel)] at refused
  · have asked : AsksToFollow (request "do_redir=3&make_redir=y") "3" :=
      ⟨by decide, .inr rfl, by decide +kernel⟩
    exact ((follows _ _ asked).2 ⟨3⟩ (by decide)).1 (by decide +kernel)
  · have asked : AsksToFollow (request "do_redir=%2B1") "+1" :=
      ⟨by decide, .inr rfl, by decide +kernel⟩
    exact (follows _ _ asked).1 (.malformed "+1") (by decide)

end Gateway

end LinkLedger
