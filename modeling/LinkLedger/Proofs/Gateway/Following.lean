import LinkLedger.Proofs.Gateway.Redirects
import LinkLedger.Proofs.Gateway.Writing

/-!
# Two ways to resolve an id

A query may ask to follow an id, and a path may name one to be shown. Of a query, the first segment
that asks to follow an id is all that counts (`FollowsFirst`): **two queries that agree on it get the
same response, and write nothing** (`first_to_follow_decides`).

Following and showing put the same question to the store, and reply differently only if a link is
found (`followed_eq_displayed`). So **the two routes resolve every text alike**
(`routes_resolve_alike`): what is no id, what is not there, and what the store fails over is told in
the same words on both.
-/

set_option autoImplicit false

namespace LinkLedger.Gateway

open LinkLedger.Http LinkLedger.Text

/-! ## What a query asks to follow -/

/-- Of the segments of a query whose decoded key asks to follow an id, the first has this value. -/
def FollowsFirst (query : List Char) (value : String) : Prop :=
  ∃ before pair after, query.splitOn '&' = before ++ pair :: after ∧
    Form.Field.ofText pair = ⟨followKey, value⟩ ∧
    ∀ raw ∈ before, (Form.Field.ofText raw).key ≠ followKey

theorem key_nil_ne_followKey : (Form.Field.ofText []).key ≠ followKey := by decide

/-- Empty segments ask for nothing, so they may be looked at as well. -/
theorem valueOf?_followKey (query : List Char) :
    valueOf? followKey (parameters query) =
      ((query.splitOn '&').find? fun raw => (Form.Field.ofText raw).key == followKey).map
        fun raw => (Form.Field.ofText raw).value := by
  rw [valueOf?, parameters, Form.rawFields, List.find?_map, List.find?_filter, Option.map_map]
  refine congrArg _ (congrArg (List.find? · _) ?_)
  funext raw
  cases raw with
  | nil => simp [key_nil_ne_followKey]
  | cons c rest => simp [Parameter.hasKey, Parameter.ofText, ← Bool.beq_eq_decide_eq]

theorem followsFirst_iff {query : List Char} {value : String} :
    FollowsFirst query value ↔ valueOf? followKey (parameters query) = some value := by
  rw [valueOf?_followKey, Option.map_eq_some_iff]
  simp only [List.find?_eq_some_iff_append, beq_iff_eq, Bool.not_eq_true', beq_eq_false_iff_ne]
  constructor
  · rintro ⟨before, pair, after, split, field, first⟩
    exact ⟨pair, ⟨by rw [field], before, after, split, first⟩, by rw [field]⟩
  · rintro ⟨pair, ⟨key, before, after, split, first⟩, rfl⟩
    exact ⟨before, pair, after, split, by rw [← key], first⟩

/-- A query of one parameter that asks to follow an id, whatever its value. -/
theorem followsFirst_pair {value : List Char} (whole : '&' ∉ value) :
    FollowsFirst (followKey.toList ++ '=' :: value) (Form.decode value) := by
  have key : '&' ∉ followKey.toList := by decide
  have pair : '&' ∉ followKey.toList ++ '=' :: value := by simp [key, whole]
  have field : Form.Field.ofText (followKey.toList ++ '=' :: value) =
      ⟨followKey, Form.decode value⟩ := field_of_pair (by decide) (by decide) (by decide) value
  exact ⟨[], _, [], List.splitOn_eq_singleton pair, field, by simp⟩

theorem AsksReport.asksToFollow {r : Request} {query : List Char} {value : String}
    (asks : AsksReport r query) (first : FollowsFirst query value) : AsksToFollow r value where
  path := asks.path
  method := .inl asks.method
  asked := asks.query_eq ▸ followsFirst_iff.mp first

theorem withId_looksUp {text : String} {use : LinkId → Program Reply}
    (uses : ∀ id, (use id).LooksUp) : (withId text use).LooksUp := by
  unfold withId
  split
  · exact trivial
  · exact uses _

/-- **The first parameter that asks to follow an id decides.** Two requests for `/` whose queries
    agree on its value are one program, whatever else their queries hold and even at two gateways
    with different addresses: they get the same response from whatever is kept and whatever faults
    there are. And what is kept stays as it is, even if links were asked for as well. -/
theorem first_to_follow_decides {query query' : List Char} {value : String}
    (first : FollowsFirst query value) (first' : FollowsFirst query' value) {r r' : Request}
    (asks : AsksReport r query) (asks' : AsksReport r' query') (base base' : Base) :
    respond base r = respond base' r' ∧
    ∀ state : Backing × FaultPlan,
      let ran := (respond base r).run Backing.store.faulty state
      let ran' := (respond base' r').run Backing.store.faulty state
      ran.value = ran'.value ∧ ran.state.1 = state.1 ∧ ran'.state.1 = state.1 := by
  have answered := answer_of_asksToFollow base (asks.asksToFollow first)
  have answered' := answer_of_asksToFollow base' (asks'.asksToFollow first')
  have same : respond base r = respond base' r' := by
    simp only [respond, answered, answered', asks.method, asks'.method]
  have kept : ∀ state : Backing × FaultPlan,
      ((respond base r).run Backing.store.faulty state).state.1 = state.1 := by
    intro state
    rw [respond_run, answered]
    exact (withId_looksUp follow_looksUp).run state
  exact ⟨same, fun state => ⟨same ▸ rfl, kept state, same ▸ kept state⟩⟩

/-- The key is spelt in two ways, and another id, a link and an empty segment are asked for too. -/
theorem first_to_follow_decides_among_others :
    let b : Backing := .database ⟨⟨some ⟨[⟨7, .ofUrl "http://a.b/"⟩], 7⟩⟩, .ready⟩
    let get (query : String) : Request := ⟨.get, "/?" ++ query, [], .empty⟩
    let ran (query : String) := (respond (.ofText "http://host/app") (get query)).run
      Backing.store.faulty (b, .none)
    (ran "a=1&make_redir=b&&do%5Fredir=%30+7&do_redir=7").value =
        (ran "do_redir=0%207").value ∧
      (ran "do_redir=0%207").value.status = .badRequest ∧
      (ran "make_redir&a=1&do_redi%72=0%307&do_redir=8").value = (ran "do_redir=007").value ∧
      (ran "do_redir=007").value.location = some "http://a.b/" := by
  intro b get ran
  have asks (query : String) (whole : '#' ∉ query.toList) : AsksReport (get query) query.toList :=
    .of_text whole [] .empty
  have agree (query query' value : String)
      (asked : valueOf? followKey (parameters query.toList) = some value)
      (asked' : valueOf? followKey (parameters query'.toList) = some value)
      (whole : '#' ∉ query.toList) (whole' : '#' ∉ query'.toList) :
      (ran query).value = (ran query').value :=
    ((first_to_follow_decides (followsFirst_iff.mpr asked) (followsFirst_iff.mpr asked')
      (asks query whole) (asks query' whole') _ _).2 (b, .none)).1
  refine ⟨agree _ _ "0 7" ?_ ?_ ?_ ?_, ?_, agree _ _ "007" ?_ ?_ ?_ ?_, ?_⟩
  all_goals decide +kernel

/-! ## Showing and following -/

/-- A request to be shown the id that a text writes, put into a segment of the path. -/
structure AsksToShow (r : Request) (text : String) : Prop where
  method : r.method = .get
  named : ∃ segment, r.path = Route.linksPath.toList ++ '/' :: segment ∧ '/' ∉ segment ∧
    String.fromUTF8? (percentDecode segment).toByteArray = some text

theorem answer_of_asksToShow {r : Request} {text : String} (base : Base) (hne : text ≠ "")
    (h : AsksToShow r text) : answer base r = withId text display := by
  obtain ⟨get, segment, path, noSlash, decoded⟩ := h
  have segment_ne : segment ≠ [] := by
    rintro rfl
    exact hne (Option.some.inj decoded).symm
  have method : r.method ∈ (Route.link segment).methods := by simp [Route.methods, get]
  simp only [answer, path, ofPath?_link segment_ne noSlash, if_pos method, answerOn, answerSegment,
    decoded]

/-- The reply to a request to be shown an id, once the store has been asked. -/
def displayed (id : LinkId) : Except StoreFailure (Option Link) → Reply
  | .error failure => .refused (.store failure)
  | .ok none => .refused (.notFound id)
  | .ok (some link) => .shown ⟨id, link.url⟩

theorem display_run_value {σ : Type} (store : Store σ) (s : σ) (id : LinkId) :
    ((display id).run store s).value = displayed id (store.answer (.get id) s).1 := by
  simp only [display, Program.bind_eq, Program.run_bind, Desk.resolve_run_value]
  rcases (store.answer (.get id) s).1 with failure | _ | link
  · exact refuse_run_value _ _ _
  · exact refuse_run_value _ _ _
  · rfl

/-- Unless a link is found, it makes no difference whether it was to be shown or to be followed. -/
theorem followed_eq_displayed {id : LinkId} {got : Except StoreFailure (Option Link)}
    (nowhere : ∀ link, got ≠ .ok (some link)) : followed id got = displayed id got := by
  rcases got with failure | _ | link
  · rfl
  · rfl
  · exact absurd rfl (nowhere link)

theorem displayed_status_eq_notFound_iff {id : LinkId} {got : Except StoreFailure (Option Link)} :
    (displayed id got).response.status = .notFound ↔ got = .ok none := by
  rcases got with failure | _ | link <;>
    simp [displayed, Reply.response, refusalResponse, Response.json]

theorem followed_status_eq_notFound_iff {id : LinkId} {got : Except StoreFailure (Option Link)} :
    (followed id got).response.status = .notFound ↔ got = .ok none := by
  rcases got with failure | _ | link
  · simp [followed, Reply.response, refusalResponse, Response.json]
  · simp [followed, Reply.response, refusalResponse, Response.json]
  · rw [followed]
    split <;> simp [Reply.response, refusalResponse, Response.json, Response.empty]

/-- A client is sent on to the link that is found, unless a byte of its url is no header byte. -/
theorem followed_found (id : LinkId) (link : Link) :
    let response := (followed id (.ok (some link))).response
    (response.status = .internalError ↔
      ∃ byte ∈ link.url.toByteArray.toList, ¬ ((0x20 ≤ byte ∨ byte = 0x09) ∧ byte ≠ 0x7F)) ∧
    (response.status ≠ .internalError →
      response = { Response.empty .found with location := some link.url }) := by
  have unfit : isHeaderValue link.url = false ↔
      ∃ byte ∈ link.url.toByteArray.toList, ¬ ((0x20 ≤ byte ∨ byte = 0x09) ∧ byte ≠ 0x7F) := by
    simp only [isHeaderValue, List.all_eq_false, isHeaderByte_iff]
  rw [← unfit, followed]
  cases fits : isHeaderValue link.url <;>
    simp [Reply.response, refusalResponse, Response.json, Response.empty]

/-- The response to a request that goes on with an id, where the reply depends on nothing but what
    the store has under it. -/
theorem respond_run_withId {σ : Type} (store : Store σ) (s : σ) (base : Base) {r : Request}
    {text : String} {use : LinkId → Program Reply}
    {replied : LinkId → Except StoreFailure (Option Link) → Reply}
    (uses : ∀ id, ((use id).run store s).value = replied id (store.answer (.get id) s).1)
    (get : r.method = .get) (answered : answer base r = withId text use) :
    (∀ fault, LinkId.parse text = .error fault →
      ((respond base r).run store s).value = (Reply.rejected fault.message).response) ∧
    ∀ id, LinkId.parse text = .ok id →
      ((respond base r).run store s).value = (replied id (store.answer (.get id) s).1).response := by
  rw [respond_run_get base get, answered]
  refine ⟨fun fault bad => ?_, fun id read => ?_⟩
  · rw [withId, bad]
    rfl
  · rw [withId, read, ← uses id]

/-- **The two routes resolve every text alike**, whatever the store is and does: shown by path and
    followed by query,

    * a text that writes no id is refused with 400, in the same words;
    * an id that the store has nothing under is answered 404, in the same words, and nothing else is
      answered so;
    * where the store fails, the answer is 500, in the same words;
    * and if there is a link, it is shown with the number that was written and its url, and the
      client is sent on to the same url, or refused with 500 if a byte of it may not stand in a
      header. -/
theorem routes_resolve_alike {σ : Type} (store : Store σ) (s : σ) (base : Base) {text : String}
    (hne : text ≠ "") {r r' : Request} {query : List Char} (shows : AsksToShow r text)
    (asks : AsksReport r' query) (first : FollowsFirst query text) :
    let shown := ((respond base r).run store s).value
    let sent := ((respond base r').run store s).value
    ((∀ id : LinkId, ¬ id.IsWrittenBy text) → shown.status = .badRequest ∧ sent = shown) ∧
    ∀ id : LinkId, id.IsWrittenBy text →
      let got := (store.answer (.get id) s).1
      ((shown.status = .notFound ↔ got = .ok none) ∧ (sent.status = .notFound ↔ got = .ok none) ∧
        (got = .ok none → sent = shown)) ∧
      (∀ failure, got = .error failure → shown.status = .internalError ∧ sent = shown) ∧
      ∀ link, got = .ok (some link) →
        shown = .json .ok (Link.json ⟨id, link.url⟩) ∧
        (sent.status = .internalError ↔
          ∃ byte ∈ link.url.toByteArray.toList, ¬ ((0x20 ≤ byte ∨ byte = 0x09) ∧ byte ≠ 0x7F)) ∧
        (sent.status ≠ .internalError →
          sent = { Response.empty .found with location := some link.url }) := by
  intro shown sent
  obtain ⟨refused, replied⟩ := respond_run_withId store s base (display_run_value store s)
    shows.method (answer_of_asksToShow base hne shows)
  obtain ⟨refused', replied'⟩ := respond_run_withId store s base (follow_run_value store s)
    asks.method (answer_of_asksToFollow base (asks.asksToFollow first))
  refine ⟨fun none => ?_, fun id writes => ?_⟩
  · cases read : LinkId.parse text with
    | ok id => exact absurd (LinkId.parse_eq_ok_iff.mp read) (none id)
    | error fault =>
      have said : shown = _ := refused fault read
      have said' : sent = _ := refused' fault read
      rw [said, said']
      exact ⟨rfl, rfl⟩
  · intro got
    have read := LinkId.parse_eq_ok_iff.mpr writes
    have said : shown = (displayed id got).response := replied id read
    have said' : sent = (followed id got).response := replied' id read
    have alike (nowhere : ∀ link, got ≠ .ok (some link)) : sent = shown := by
      rw [said, said', followed_eq_displayed nowhere]
    refine ⟨⟨?_, ?_, fun nothing => alike (by simp [nothing])⟩,
      fun failure failed => ⟨?_, alike (by simp [failed])⟩, fun link found => ?_⟩
    · rw [said, displayed_status_eq_notFound_iff]
    · rw [said', followed_status_eq_notFound_iff]
    · rw [said, failed]
      rfl
    · rw [said, said', found]
      exact ⟨rfl, followed_found id link⟩

/-- Zeros in front and escaped digits do no harm on either route. A url is planted that would end in
    a control, and bytes that are no text; a number is beyond the words, and a plus sign, which a
    query has to escape, makes no number. -/
theorem routes_resolve_alike_on_a_table :
    let rows : List Row := [⟨1, .ofUrl "http://a.b/"⟩, ⟨2, .ofUrl "http://a.b/\x7f"⟩,
      ⟨3, .blob "http://c.d/".toByteArray⟩]
    let b : Backing := .database ⟨⟨some ⟨rows, 3⟩⟩, .ready⟩
    let get (target : String) : Request := ⟨.get, target, [], .empty⟩
    let shown (segment : String) : Response :=
      ((respond (.ofText "") (get ("/v1/permalinks/" ++ segment))).run Backing.store b).value
    let sent (value : String) : Response :=
      ((respond (.ofText "") (get ("/?" ++ ("do_redir=" ++ value)))).run Backing.store b).value
    (shown "%301" = .json .ok (Link.json ⟨⟨1⟩, "http://a.b/"⟩) ∧
      (sent "0%31").status ≠ .internalError) ∧
    (shown "2" = .json .ok (Link.json ⟨⟨2⟩, "http://a.b/\x7f"⟩) ∧
      (sent "2").status = .internalError) ∧
    ((shown "3").status = .internalError ∧ sent "3" = shown "3") ∧
    ((shown "18446744073709551616").status = .badRequest ∧
      sent "18446744073709551616" = shown "18446744073709551616") ∧
    (shown "+1").status = .badRequest ∧ sent "%2B1" = shown "+1" := by
  intro rows b get shown sent
  have alike (segment value text : String) (hne : text ≠ "")
      (path : (get ("/v1/permalinks/" ++ segment)).path =
        Route.linksPath.toList ++ '/' :: segment.toList)
      (whole : '/' ∉ segment.toList ∧ '&' ∉ value.toList ∧ '#' ∉ ("do_redir=" ++ value).toList)
      (read : String.fromUTF8? (percentDecode segment.toList).toByteArray = some text)
      (read' : Form.decode value.toList = text) :=
    have shows : AsksToShow (get ("/v1/permalinks/" ++ segment)) text :=
      ⟨rfl, segment.toList, path, whole.1, read⟩
    have asks : AsksReport (get ("/?" ++ ("do_redir=" ++ value))) ("do_redir=" ++ value).toList :=
      .of_text whole.2.2 [] .empty
    have first : FollowsFirst ("do_redir=" ++ value).toList text := by
      rw [String.toList_append, ← read']
      exact followsFirst_pair whole.2.1
    routes_resolve_alike Backing.store b (.ofText "") hne shows asks first
  have one := (alike "%301" "0%31" "01" (by decide) (by decide) (by decide) (by decide)
    (by decide)).2 ⟨1⟩ ⟨by decide, List.all_eq_true.mp (by decide), by decide⟩
  have two := (alike "2" "2" "2" (by decide) (by decide) (by decide) (by decide)
    (by decide)).2 ⟨2⟩ ⟨by decide, List.all_eq_true.mp (by decide), by decide⟩
  have three := (alike "3" "3" "3" (by decide) (by decide) (by decide) (by decide)
    (by decide)).2 ⟨3⟩ ⟨by decide, List.all_eq_true.mp (by decide), by decide⟩
  obtain ⟨shown₁, sent₁, -⟩ := one.2.2 ⟨⟨1⟩, "http://a.b/"⟩ (by decide +kernel)
  obtain ⟨shown₂, sent₂, -⟩ := two.2.2 ⟨⟨2⟩, "http://a.b/\x7f"⟩ (by decide +kernel)
  obtain ⟨shown₃, sent₃⟩ := three.2.1 _ rfl
  refine ⟨⟨shown₁, mt sent₁.mp (by decide +kernel)⟩, ⟨shown₂, sent₂.mpr (by decide +kernel)⟩,
    ⟨shown₃, sent₃⟩, ?_, ?_⟩
  · refine (alike "18446744073709551616" "18446744073709551616" "18446744073709551616"
      (by decide) (by decide) (by decide) (by decide) (by decide +kernel)).1 fun id writes => ?_
    have number : decimalNumber "18446744073709551616".toList = 18446744073709551616 := by decide
    have small := id.word.toNat_lt
    rw [← writes.number, number] at small
    exact absurd small (by decide)
  · refine (alike "+1" "%2B1" "+1" (by decide) (by decide) (by decide) (by decide)
      (by decide)).1 fun id writes => ?_
    exact absurd (writes.digits '+' (by decide)) (by decide)

end LinkLedger.Gateway
