import LinkLedger.Proofs.Gateway.Loops
import LinkLedger.Proofs.Store.Pairing
import LinkLedger.Proofs.Text.Escapes

/-!
# Which requests are given the same link

The link that a query asks for leads to what stands beside the parameter that asks for it
(`segmentsBeside`), put together again as it was written; if nothing stands beside it, to its value.
So there are two ways to ask for the link to a query, which is to write it out behind the parameter
or to escape it and make it the value, and **they come to the same** (`written_out_or_escaped`).

Where something stands beside, nothing else counts. Segments that are put together can be told apart
again, so can an address and what is appended to it, and ids go with urls; so **two requests are
given one permanent link exactly if the same segments stand beside** (`links_are_shared_iff`).
-/

set_option autoImplicit false

namespace LinkLedger.Gateway

open LinkLedger.Http LinkLedger.Text

/-! ## What stands beside -/

/-- The segments of a query that are not empty and do not ask for a link, as they are written. -/
def segmentsBeside (query : List Char) : List (List Char) :=
  (query.splitOn '&').filter fun raw =>
    decide (raw ≠ []) && decide ((Form.Field.ofText raw).key ≠ makeKey)

theorem keptParameters_parameters (query : List Char) :
    keptParameters (parameters query) = segmentsBeside query := by
  have raw : Parameter.raw ∘ Parameter.ofText = id := rfl
  have filters : ∀ field : List Char,
      (((fun p => !p.hasKey makeKey) ∘ Parameter.ofText) field && !field.isEmpty) =
        (decide (field ≠ []) && decide ((Form.Field.ofText field).key ≠ makeKey)) := by
    intro field
    cases field <;> simp [Parameter.hasKey, Parameter.ofText, ← Bool.beq_eq_decide_eq]
  rw [keptParameters, parameters, Form.rawFields, List.filter_map, List.map_map, raw, List.map_id,
    List.filter_filter, segmentsBeside]
  exact List.filter_congr fun field _ => filters field

/-- Where something stands beside, the value that asks for the link is not looked at. -/
theorem linkQuery?_of_beside {query : List Char} (beside : segmentsBeside query ≠ [])
    (value : String) :
    linkQuery? (parameters query) value = some (['&'].intercalate (segmentsBeside query)) := by
  rw [← keptParameters_parameters] at beside ⊢
  exact linkQuery?_of_kept beside value

/-- Segments that are put together can be told apart again. -/
theorem intercalate_inj {raws raws' : List (List Char)} (hne : raws ≠ []) (hne' : raws' ≠ [])
    (whole : ∀ raw ∈ raws, '&' ∉ raw) (whole' : ∀ raw ∈ raws', '&' ∉ raw) :
    ['&'].intercalate raws = ['&'].intercalate raws' ↔ raws = raws' := by
  refine ⟨fun same => ?_, congrArg _⟩
  rw [← List.splitOn_intercalate '&' whole hne, same, List.splitOn_intercalate '&' whole' hne']

theorem not_mem_of_mem_segmentsBeside {query : List Char} :
    ∀ raw ∈ segmentsBeside query, '&' ∉ raw :=
  fun raw h => (of_mem_splitOn query raw (List.mem_of_mem_filter h)).1

/-! ## The query that is linked to -/

/-- The query of the link that a query asks for, if it asks for one and for nothing else. -/
def linkedQuery? (query : List Char) : Option (List Char) :=
  match valueOf? followKey (parameters query) with
  | some _ => none
  | none => (valueOf? makeKey (parameters query)).bind (linkQuery? (parameters query))

theorem linkedQuery?_of {query link : List Char} (value : String)
    (alone : valueOf? followKey (parameters query) = none)
    (asked : valueOf? makeKey (parameters query) = some value)
    (linked : linkQuery? (parameters query) value = some link) :
    linkedQuery? query = some link := by
  rw [linkedQuery?, alone, asked, Option.bind_some, linked]

theorem answer_of_linkedQuery? (base : Base) {r : Request} {query link : List Char}
    (asks : AsksReport r query) (linked : linkedQuery? query = some link) :
    answer base r = make base (base.target link) .linked := by
  rw [answer_of_report asks.path asks.method, asks.query_eq, answerQuery]
  unfold linkedQuery? at linked
  cases follows : valueOf? followKey (parameters query) with
  | some value =>
    rw [follows] at linked
    cases linked
  | none =>
    rw [follows] at linked
    obtain ⟨value, asked, linked⟩ := Option.bind_eq_some_iff.mp linked
    simp only [asked, linked]

/-- The parameter that asks for a link, as it is written with a value. -/
def makePair (value : List Char) : List Char := makeKey.toList ++ '=' :: value

theorem field_makePair (value : List Char) :
    Form.Field.ofText (makePair value) = ⟨makeKey, Form.decode value⟩ :=
  field_of_pair (by decide) (by decide) (by decide) value

theorem parameters_makePair {value : List Char} (whole : '&' ∉ value) :
    parameters (makePair value) = [⟨makePair value, makeKey, Form.decode value⟩] := by
  have key : '&' ∉ makeKey.toList := by decide
  have pair : '&' ∉ makePair value := by simp [makePair, key, whole]
  rw [parameters_of_not_mem pair (by simp [makePair]), Parameter.ofText, field_makePair]

/-- A segment of a query that asks for no link and to follow none. -/
structure IsPlainSegment (raw : List Char) : Prop where
  ne_nil : raw ≠ []
  whole : '&' ∉ raw
  ne_makeKey : (Form.Field.ofText raw).key ≠ makeKey
  ne_followKey : (Form.Field.ofText raw).key ≠ followKey

theorem makeKey_ne_followKey : makeKey ≠ followKey := by decide

section

variable {segments : List (List Char)} {value : List Char}

/-- **Written out behind the parameter, a query is linked to as it is**, whatever the value. -/
theorem linkedQuery?_written_out (hne : segments ≠ [])
    (plain : ∀ raw ∈ segments, IsPlainSegment raw) (whole : '&' ∉ value) :
    linkedQuery? (makePair value ++ '&' :: ['&'].intercalate segments) =
      some (['&'].intercalate segments) := by
  have read : parameters (makePair value ++ '&' :: ['&'].intercalate segments) =
      ⟨makePair value, makeKey, Form.decode value⟩ :: segments.map Parameter.ofText := by
    rw [parameters_append, parameters_makePair whole,
      parameters_intercalate hne fun raw h => ⟨(plain raw h).whole, (plain raw h).ne_nil⟩]
    rfl
  have kept : segmentsBeside (makePair value ++ '&' :: ['&'].intercalate segments) = segments := by
    have spared : ∀ p ∈ segments.map Parameter.ofText, (!p.hasKey makeKey) = true := by
      intro p hp
      obtain ⟨raw, hraw, rfl⟩ := List.mem_map.mp hp
      simpa [Parameter.hasKey, Parameter.ofText] using (plain raw hraw).ne_makeKey
    rw [← keptParameters_parameters, read, keptParameters,
      List.filter_cons_of_neg (by simp [Parameter.hasKey]), List.filter_eq_self.mpr spared,
      List.map_map]
    exact List.map_id segments
  refine linkedQuery?_of (Form.decode value) ?_ ?_ ?_
  · rw [read]
    refine valueOf?_eq_none_iff.mpr fun p hp => ?_
    rcases List.mem_cons.mp hp with rfl | hp
    · exact makeKey_ne_followKey
    · obtain ⟨raw, hraw, rfl⟩ := List.mem_map.mp hp
      exact (plain raw hraw).ne_followKey
  · rw [read]
    simp [valueOf?, Parameter.hasKey]
  · rw [linkQuery?_of_beside (kept.symm ▸ hne), kept]

/-- **Escaped and made the value, a query is linked to as it is**, unless a separator leads it. -/
theorem linkedQuery?_escaped {query : List Char}
    (led : ∃ c, query.head? = some c ∧ isSeparator c = false) :
    linkedQuery? (makePair (Form.encode (String.ofList query))) = some query := by
  obtain ⟨c, first, plain⟩ := led
  obtain ⟨more, rfl⟩ := List.head?_eq_some_iff.mp first
  have read := parameters_makePair (Form.not_mem_encode (String.ofList (c :: more)))
  rw [Form.decode_encode] at read
  refine linkedQuery?_of (String.ofList (c :: more)) ?_ ?_ ?_
  · rw [read]
    exact valueOf?_eq_none_iff.mpr fun p hp => List.mem_singleton.mp hp ▸ makeKey_ne_followKey
  · rw [read]
    simp [valueOf?, Parameter.hasKey]
  · have alone : keptParameters (parameters (makePair (Form.encode (String.ofList (c :: more))))) =
        [] := by
      rw [read]
      simp [keptParameters, Parameter.hasKey]
    rw [linkQuery?, alone]
    simp [List.dropWhile_cons_of_neg, plain]

/-- What segments are put together to begins with a character of the first one. -/
theorem head?_intercalate {first : List Char} (hne : first ≠ []) (more : List (List Char)) :
    (['&'].intercalate (first :: more)).head? = first.head? := by
  obtain ⟨c, rest, rfl⟩ := List.exists_cons_of_ne_nil hne
  cases more <;> simp [List.intercalate]

/-- No separator is in front but a question mark. -/
theorem led_of_plain (hne : segments ≠ []) (plain : ∀ raw ∈ segments, IsPlainSegment raw)
    (unmarked : (['&'].intercalate segments).head? ≠ some '?') :
    ∃ c, (['&'].intercalate segments).head? = some c ∧ isSeparator c = false := by
  obtain ⟨first, more, rfl⟩ := List.exists_cons_of_ne_nil hne
  have hfirst := plain first List.mem_cons_self
  rw [head?_intercalate hfirst.ne_nil] at unmarked ⊢
  obtain ⟨c, rest, rfl⟩ := List.exists_cons_of_ne_nil hfirst.ne_nil
  have ampersand : c ≠ '&' := by
    rintro rfl
    exact hfirst.whole List.mem_cons_self
  have mark : c ≠ '?' := by
    rintro rfl
    exact unmarked rfl
  exact ⟨c, rfl, by simp [isSeparator, ampersand, mark]⟩

end

/-- A request for the link to a url gets what the desk comes to, and nothing else is written. -/
theorem respond_run_make {base : Base} {r : Request} {url : String} (get : r.method = .get)
    (asks : answer base r = make base url .linked) {σ : Type} (store : Store σ) (s : σ) :
    ((respond base r).run store s).value =
        (madeReply base url .linked ((Desk.make url).run store s).value).response ∧
      ((respond base r).run store s).state = ((Desk.make url).run store s).state := by
  obtain ⟨value, state⟩ := make_run base url .linked store s
  rw [respond_run_get base get, asks]
  exact ⟨congrArg Reply.response value, state⟩

/-- **The two ways to ask for the link to a query agree.** Of a query of segments that ask for
    nothing themselves, led by no question mark, it makes no difference whether it is written out
    behind a parameter that asks for a link, with whatever value, or escaped and made the value: it
    is what is linked to, and the requests are one program. So the reply to either is what the desk
    makes of the one url, whatever is kept and whatever faults there are, and who asks the second
    way after the first gets the same response again. -/
theorem written_out_or_escaped {segments : List (List Char)} (hne : segments ≠ [])
    (plain : ∀ raw ∈ segments, IsPlainSegment raw) {query : List Char}
    (joined : query = ['&'].intercalate segments) (unmarked : query.head? ≠ some '?')
    {value : List Char} (whole : '&' ∉ value) (base : Base) {r r' : Request}
    (out : AsksReport r (makePair value ++ '&' :: query))
    (escaped : AsksReport r' (makePair (Form.encode (String.ofList query)))) :
    linkedQuery? r.query = some query ∧ linkedQuery? r'.query = some query ∧
    respond base r = respond base r' ∧
    (∀ state : Backing × FaultPlan, ∃ result,
      let ran := (respond base r).run Backing.store.faulty state
      Desk.Made state.1 (base.target query) result ran.state.1 ∧
      ran.value = (madeReply base (base.target query) .linked result).response) ∧
    ∀ b : Backing,
      let first := (respond base r).run Backing.store b
      ((respond base r').run Backing.store first.state).value = first.value := by
  subst joined
  have linked := linkedQuery?_written_out hne plain whole
  have linked' := linkedQuery?_escaped (led_of_plain hne plain unmarked)
  have answered := answer_of_linkedQuery? base out linked
  have answered' := answer_of_linkedQuery? base escaped linked'
  have same : respond base r = respond base r' := by
    simp only [respond, answered, answered', out.method, escaped.method]
  refine ⟨out.query_eq ▸ linked, escaped.query_eq ▸ linked', same, fun state => ?_, fun b => ?_⟩
  · obtain ⟨replied, later⟩ := respond_run_make out.method answered Backing.store.faulty state
    refine ⟨_, ?_, replied⟩
    rw [later]
    exact Desk.Made.of_make _ state
  · obtain ⟨first, after⟩ := respond_run_make out.method answered Backing.store b
    obtain ⟨second, -⟩ := respond_run_make escaped.method answered' Backing.store
      ((respond base r).run Backing.store b).state
    dsimp only
    rw [second, first, after, Desk.make_again]

/-- The query has escapes that stand for something else when they are read, a percent sign that
    begins none, plus signs, keys without a value and twice, and text beyond ASCII. -/
theorem written_out_or_escaped_beyond_ascii :
    let query := "%61=1+%2&b&b==&é=日&c?d=%FF"
    let get (target : String) : Request := ⟨.get, target, [], .empty⟩
    let out := get ("/?make_redir=do_redir%3D1&" ++ query)
    let escaped :=
      get "/?make_redir=%2561%3D1%2B%252%26b%26b%3D%3D%26%C3%A9%3D%E6%97%A5%26c%3Fd%3D%25FF"
    let base : Base := .ofText "http://host/app"
    (linkedQuery? out.query = some query.toList ∧ linkedQuery? escaped.query = some query.toList) ∧
      respond base out = respond base escaped := by
  intro query get out escaped base
  let segments : List (List Char) := query.toList.splitOn '&'
  have joined : query.toList = ['&'].intercalate segments := (List.intercalate_splitOn '&').symm
  have each : ∀ raw ∈ segments, raw ≠ [] ∧ '&' ∉ raw ∧
      (Form.Field.ofText raw).key ≠ makeKey ∧ (Form.Field.ofText raw).key ≠ followKey := by
    decide +kernel
  have plain : ∀ raw ∈ segments, IsPlainSegment raw := fun raw h =>
    ⟨(each raw h).1, (each raw h).2.1, (each raw h).2.2.1, (each raw h).2.2.2⟩
  have asks : AsksReport out (makePair "do_redir%3D1".toList ++ '&' :: query.toList) :=
    ⟨by decide +kernel, rfl, by decide +kernel⟩
  have asks' : AsksReport escaped (makePair (Form.encode (String.ofList query.toList))) :=
    ⟨by decide +kernel, rfl, by decide +kernel⟩
  obtain ⟨linked, linked', same, -⟩ := written_out_or_escaped (by decide +kernel) plain joined
    (by decide +kernel) (by decide +kernel) base asks asks'
  exact ⟨⟨linked, linked'⟩, same⟩

/-! ## Shared links -/

/-- What a report is given for the segments beside is kept. -/
theorem linked_of_sent {s : Session} (regular : s.backing.Regular) {r : Request}
    {query : List Char} (asks : AsksReport r query) (beside : segmentsBeside query ≠ [])
    {response : Response} (came : (s.step (.send r)).value = .response response)
    (ok : response.status = .ok) :
    let url := s.base.target (['&'].intercalate (segmentsBeside query))
    ∃ id, response.Carries ⟨id, url⟩ (s.base.permalink id) ∧
      (s.step (.send r)).state.backing.HasRow (Link.mk id url).row := by
  have responded : ((respond s.base r).run Backing.store.faulty (s.backing, s.faults)).value =
      response := Outcome.response.inj came
  obtain ⟨value, link, id, -, -, linked, carries, found⟩ :=
    linked_of_ok asks.method asks.path (responded.symm ▸ ok)
  rw [asks.query_eq, linkQuery?_of_beside beside] at linked
  obtain rfl := Option.some.inj linked
  have after : (s.step (.send r)).state.backing.Regular :=
    Session.step_keeps Backing.regular_answer (fun b hb => hb.work trivial) regular
  exact ⟨id, responded ▸ carries, after, after.row_of_found found⟩

/-- **Two reports share a permanent link exactly if the same segments stand beside.** Two requests
    are sent, one some time after the other, to whatever a session may have left behind, and both
    are answered 200. Then the ids that they are given are the same, and so are the permanent links,
    exactly if the segments of the two queries that are not empty and do not ask for a link are the
    same, as they are written and in the same order.

    Meanwhile anything may happen that takes no rows away; and in memory, where ids are words that
    begin again after the last, there are fewer links than words. -/
theorem links_are_shared_iff {s : Session} (reachable : s.backing.Reachable) {between : List Step}
    (spares : ∀ step ∈ between, step.IsSigned ∧ step.SparesRows) {r r' : Request}
    {query query' : List Char} (asks : AsksReport r query) (asks' : AsksReport r' query')
    (beside : segmentsBeside query ≠ []) (beside' : segmentsBeside query' ≠ [])
    {response response' : Response} :
    let first := s.step (.send r)
    let second := (first.state.run between).1.step (.send r')
    second.state.backing.HasWordsLeft →
    first.value = .response response → response.status = .ok →
    second.value = .response response' → response'.status = .ok →
      ∃ link link', response.Carries link (s.base.permalink link.id) ∧
        response'.Carries link' (s.base.permalink link'.id) ∧
        (link.id = link'.id ↔ segmentsBeside query = segmentsBeside query') ∧
        (s.base.permalink link.id = s.base.permalink link'.id ↔ link.id = link'.id) := by
  intro first second words came ok came' ok'
  let later : Session := (first.state.run between).1
  have base : later.base = s.base := first.state.run_base between
  obtain ⟨id, carries, there⟩ := linked_of_sent reachable.regular asks beside came ok
  have kept : later.backing.HasRow _ := Session.hasRow_run spares there
  obtain ⟨id', carries', there'⟩ := linked_of_sent kept.regular asks' beside' came' ok'
  -- The second request takes no row away either, so both rows are there in the end.
  have stayed : second.state.backing.HasRow _ :=
    Session.step_keeps Backing.HasRow.answer (fun b hb => hb) kept
  rw [base] at carries' there'
  refine ⟨_, _, carries, carries', ?_, s.base.permalink_inj⟩
  rw [there'.regular.id_eq_iff words stayed.mem_rows there'.mem_rows, Base.target_inj,
    intercalate_inj beside beside' not_mem_of_mem_segmentsBeside not_mem_of_mem_segmentsBeside]

/-- Other spellings of the parameter that asks for a link, more of them and empty segments make no
    difference, even after another request in the meantime whose link has the segments the other way
    round. An escape that is written out does. -/
theorem links_are_shared_iff_whatever_asks_for_them :
    let b : Backing := .database ⟨⟨some ⟨[⟨7, .ofUrl "http://a.b/"⟩], 7⟩⟩, .ready⟩
    let s : Session := ⟨b, .none, .ofText "http://host/app"⟩
    let get (query : String) : Request := ⟨.get, "/?" ++ query, [], .empty⟩
    let first := s.step (.send (get "make_redir&a=%31&b"))
    let turned : Step := .send (get "b&a=%31&make_redir=1")
    let second :=
      (first.state.run [turned]).1.step (.send (get "&mak%65_redir=x&a=%31&&b&make_redir"))
    let other := (first.state.run []).1.step (.send (get "make_redir&a=1&b"))
    s.backing.Reachable ∧ ∃ response response' response'',
      first.value = .response response ∧ second.value = .response response' ∧
      other.value = .response response'' ∧
      (∃ link link', response.Carries link (s.base.permalink link.id) ∧
        response'.Carries link' (s.base.permalink link'.id) ∧ link.id = link'.id) ∧
      ∃ link link', response.Carries link (s.base.permalink link.id) ∧
        response''.Carries link' (s.base.permalink link'.id) ∧ link.id ≠ link'.id := by
  intro b s get first turned second other
  have reachable : s.backing.Reachable := by
    refine ⟨_, .ofText "", [.ensureTable, .plant 7 (.ofUrl "http://a.b/")], .inr rfl, ?_,
      by decide +kernel⟩
    simp [Step.IsSigned, maxKey]
  have asks (query : String) (whole : '#' ∉ query.toList) : AsksReport (get query) query.toList :=
    .of_text whole [] .empty
  have spares : ∀ step ∈ [turned], step.IsSigned ∧ step.SparesRows := by
    simp [turned, Step.IsSigned, Step.SparesRows]
  have spares' : ∀ step ∈ ([] : List Step), step.IsSigned ∧ step.SparesRows := by simp
  obtain ⟨link, link', carries, carries', ids, -⟩ :=
    links_are_shared_iff reachable spares (asks "make_redir&a=%31&b" (by decide))
      (asks "&mak%65_redir=x&a=%31&&b&make_redir" (by decide)) (by decide +kernel)
      (by decide +kernel) (by decide +kernel) rfl (by decide +kernel) rfl (by decide +kernel)
  obtain ⟨link₂, link'', carries₂, carries'', ids', -⟩ :=
    links_are_shared_iff reachable spares' (asks "make_redir&a=%31&b" (by decide))
      (asks "make_redir&a=1&b" (by decide)) (by decide +kernel) (by decide +kernel)
      (by decide +kernel) rfl (by decide +kernel) rfl (by decide +kernel)
  exact ⟨reachable, _, _, _, rfl, rfl, rfl,
    ⟨link, link', carries, carries', ids.mpr (by decide +kernel)⟩,
    link₂, link'', carries₂, carries'', mt ids'.mp (by decide +kernel)⟩

end LinkLedger.Gateway
