import LinkLedger.Proofs.Gateway.Writing

/-!
# Links that lead back to the gateway

A link that is asked for by query leads to the address of the gateway with another query. If that
query had a parameter that follows or makes a link (`callsBack`), whoever follows the link would be
back at the gateway and not at a report.

The query is made in two ways. Of the parameters beside the one that asks for a link, none calls
back, because those that ask for a link are taken off and none asks to follow one. The value that
stands in for them if there are none is taken as it is, and may call back. **`linked_calls_back_iff`:
this is the only way**; `links_to_itself` is a link that is sent on to itself for ever.
-/

set_option autoImplicit false

namespace LinkLedger.Gateway

open LinkLedger.Http LinkLedger.Text

/-- Whether a parameter asks the gateway to follow or to make a link. -/
def Parameter.isCall (p : Parameter) : Bool := p.hasKey makeKey || p.hasKey followKey

/-- Whether a query asks the gateway to follow or to make a link. -/
def callsBack (query : List Char) : Bool := (parameters query).any Parameter.isCall

/-- What is sent of a text: a fragment stays with the client. -/
def withoutFragment (text : List Char) : List Char := text.takeWhile (· ≠ '#')

/-- The query that is sent to where a url leads. -/
def sentQuery (url : String) : List Char := queryOf (withoutFragment url.toList)

/-! ## Queries put together from parameters -/

theorem of_mem_splitOn (text : List Char) :
    ∀ raw ∈ text.splitOn '&', '&' ∉ raw ∧ raw ⊆ text := by
  induction text with
  | nil => simp
  | cons c rest ih =>
    rw [List.splitOn_cons_eq_if_modifyHead]
    split
    · intro raw hraw
      rcases List.mem_cons.mp hraw with rfl | hraw
      · exact ⟨List.not_mem_nil, List.nil_subset _⟩
      · exact ⟨(ih raw hraw).1, List.subset_cons_of_subset c (ih raw hraw).2⟩
    · next hc =>
      cases hparts : rest.splitOn '&' with
      | nil => simp
      | cons first more =>
        rw [hparts] at ih
        intro raw hraw
        rcases List.mem_cons.mp hraw with rfl | hraw
        · obtain ⟨hfirst, hsub⟩ := ih first List.mem_cons_self
          have hne : '&' ≠ c := fun h => hc (beq_iff_eq.mpr h.symm)
          exact ⟨by simp [hne, hfirst], List.cons_subset_cons c hsub⟩
        · obtain ⟨hmore, hsub⟩ := ih raw (List.mem_cons_of_mem first hraw)
          exact ⟨hmore, List.subset_cons_of_subset c hsub⟩

theorem of_mem_parameters {query : List Char} {p : Parameter} (h : p ∈ parameters query) :
    ('&' ∉ p.raw ∧ p.raw ≠ []) ∧ p.raw ⊆ query := by
  obtain ⟨raw, hfield, rfl⟩ := List.mem_map.mp h
  obtain ⟨hmem, hne⟩ := List.mem_filter.mp hfield
  obtain ⟨hamp, hsub⟩ := of_mem_splitOn query raw hmem
  refine ⟨⟨hamp, ?_⟩, hsub⟩
  rintro rfl
  exact absurd hne (by decide)

theorem of_mem_keptParameters {query raw : List Char}
    (h : raw ∈ keptParameters (parameters query)) : ('&' ∉ raw ∧ raw ≠ []) ∧ raw ⊆ query := by
  obtain ⟨p, hp, rfl⟩ := List.mem_map.mp h
  exact of_mem_parameters (List.mem_of_mem_filter hp)

/-- Texts without separators, put together with them, are read again as they are. -/
theorem parameters_intercalate {raws : List (List Char)} (hne : raws ≠ [])
    (hraws : ∀ raw ∈ raws, '&' ∉ raw ∧ raw ≠ []) :
    parameters (['&'].intercalate raws) = raws.map Parameter.ofText := by
  have hsplit := List.splitOn_intercalate '&' (fun raw h => (hraws raw h).1) hne
  have hkeep : raws.filter (fun raw => !raw.isEmpty) = raws :=
    List.filter_eq_self.mpr fun raw h => by simp [(hraws raw h).2]
  rw [parameters, Form.rawFields, hsplit, hkeep]

theorem ofText_raw {query : List Char} {p : Parameter} (h : p ∈ parameters query) :
    Parameter.ofText p.raw = p := by
  obtain ⟨raw, -, rfl⟩ := List.mem_map.mp h
  rfl

/-- Whichever parameters of a query are put together, they are read again as they were. -/
theorem parameters_of_sublist {query : List Char} {ps : List Parameter}
    (h : ps.Sublist (parameters query)) :
    parameters (['&'].intercalate (ps.map Parameter.raw)) = ps := by
  cases ps with
  | nil => rfl
  | cons p more =>
    have whole : ∀ raw ∈ (p :: more).map Parameter.raw, '&' ∉ raw ∧ raw ≠ [] := by
      intro raw hraw
      obtain ⟨q, hq, rfl⟩ := List.mem_map.mp hraw
      exact (of_mem_parameters (h.subset hq)).1
    have hne : (p :: more).map Parameter.raw ≠ [] := List.cons_ne_nil _ _
    rw [parameters_intercalate hne whole, List.map_map]
    conv => rhs; rw [← List.map_id (p :: more)]
    exact List.map_congr_left fun q hq => ofText_raw (h.subset hq)

/-- The parameters that are kept are read again as they were. -/
theorem parameters_kept (query : List Char) :
    parameters (['&'].intercalate (keptParameters (parameters query))) =
      (parameters query).filter fun p => !p.hasKey makeKey :=
  parameters_of_sublist List.filter_sublist

/-- What is kept makes the query of a link, whatever the value that asks for it. -/
theorem linkQuery?_of_kept {ps : List Parameter} (h : keptParameters ps ≠ []) (value : String) :
    linkQuery? ps value = some (['&'].intercalate (keptParameters ps)) := by
  unfold linkQuery?
  cases kept : keptParameters ps with
  | nil => exact absurd kept h
  | cons first more => rfl

theorem not_mem_kept {query : List Char} (h : '#' ∉ query) :
    '#' ∉ ['&'].intercalate (keptParameters (parameters query)) := by
  intro hmem
  rcases mem_intercalate hmem with heq | ⟨raw, hraw, hmem⟩
  · exact absurd heq (by decide)
  · exact h ((of_mem_keptParameters hraw).2 hmem)

/-! ## What calls back -/

theorem withoutFragment_of_not_mem {text : List Char} (h : '#' ∉ text) :
    withoutFragment text = text :=
  List.takeWhile_eq_self_iff.mpr (ne_of_mem_of_not_mem h)

/-- If the address does not call back itself, what is appended to it decides. -/
theorem callsBack_target {base : Base} (hhash : '#' ∉ base.text)
    (hown : callsBack (queryOf base.text) = false) (query : List Char) :
    callsBack (sentQuery (base.target query)) = callsBack (withoutFragment query) := by
  have hseparator : base.separator ≠ '#' := by
    unfold Base.separator
    split <;> decide
  have hcut : withoutFragment (base.target query).toList =
      base.text ++ base.separator :: withoutFragment query := by
    rw [Base.target, String.toList_ofList, withoutFragment,
      List.takeWhile_append_of_pos (ne_of_mem_of_not_mem hhash),
      List.takeWhile_cons_of_pos (by simpa using hseparator)]
    rfl
  rw [sentQuery, hcut, callsBack, parameters_target, List.any_append]
  rw [callsBack] at hown
  rw [hown, Bool.false_or]
  rfl

/-- **Of the two ways to make the query of a link, one may call back**: the value that stands in
    where there are no other parameters. -/
theorem linkQuery_callsBack_iff {query value link} (hhash : '#' ∉ query)
    (alone : valueOf? followKey (parameters query) = none)
    (linked : linkQuery? (parameters query) value = some link) :
    callsBack (withoutFragment link) = true ↔
      keptParameters (parameters query) = [] ∧
        callsBack (withoutFragment (value.toList.dropWhile isSeparator)) = true := by
  unfold linkQuery? at linked
  split at linked
  · next hnone =>
    split at linked
    · cases linked
    · next hvalue =>
      cases linked
      rw [hnone, eq_self_iff_true, true_and]
  · next hkept =>
    cases linked
    have hne : keptParameters (parameters query) ≠ [] := hkept
    refine iff_of_false ?_ fun h => hne h.1
    rw [withoutFragment_of_not_mem (not_mem_kept hhash), callsBack, parameters_kept]
    intro hcalls
    obtain ⟨p, hp, hcall⟩ := List.any_eq_true.mp hcalls
    obtain ⟨hmem, hmake⟩ := List.mem_filter.mp hp
    have hcase : p.field.key = makeKey ∨ p.field.key = followKey := by
      simpa [Parameter.isCall, Parameter.hasKey] using hcall
    rcases hcase with h | h
    · exact absurd hmake (by simp [Parameter.hasKey, h])
    · exact valueOf?_eq_none_iff.mp alone p hmem h

/-! ## Requests and the links that they make -/

section

variable {base : Base} {r : Request}

theorem answer_of_report (hpath : r.path = ['/']) (hmethod : r.method = .get) :
    answer base r = answerQuery base r.query := by
  have hroute : Route.ofPath? r.path = some .report := by
    rw [hpath]
    rfl
  simp [answer, hroute, hmethod, Route.methods, answerOn]

theorem status_refused_ne_ok (refusal : Refusal) : (Reply.refused refusal).response.status ≠ .ok := by
  cases refusal <;> simp [Reply.response, refusalResponse, Response.json]

/-- Of the queries that `/` is asked with, only those that ask for a link are answered 200. -/
theorem of_answerQuery_ok {query : List Char} {state : Backing × FaultPlan}
    (hok : ((answerQuery base query).run Backing.store.faulty state).value.response.status = .ok) :
    ∃ value link, valueOf? followKey (parameters query) = none ∧
      valueOf? makeKey (parameters query) = some value ∧
      linkQuery? (parameters query) value = some link ∧
      answerQuery base query = make base (base.target link) .linked := by
  simp only [answerQuery] at hok ⊢
  cases follows : valueOf? followKey (parameters query) with
  | some text =>
    rw [follows] at hok
    simp only [withId] at hok
    cases hread : LinkId.parse text with
    | error fault =>
      rw [hread] at hok
      cases hok
    | ok id =>
      rw [hread] at hok
      rcases (follow_replies id).run Backing.store.faulty state with ⟨url, sent⟩ | ⟨refusal, refused⟩
      · rw [sent] at hok
        cases hok
      · rw [refused] at hok
        exact absurd hok (status_refused_ne_ok refusal)
  | none =>
    rw [follows] at hok
    cases asks : valueOf? makeKey (parameters query) with
    | none =>
      rw [asks] at hok
      cases hok
    | some value =>
      rw [asks] at hok
      dsimp only at hok ⊢
      cases linked : linkQuery? (parameters query) value with
      | none =>
        rw [linked] at hok
        cases hok
      | some link => exact ⟨value, link, rfl, rfl, linked, rfl⟩

/-- A query that does not call back is of no concern to the gateway: no store is asked. -/
theorem answer_of_not_callsBack (hpath : r.path = ['/']) (hcalls : callsBack r.query = false) :
    ∃ reply : Reply, reply.isSettled = true ∧ answer base r = .done reply := by
  have hnone : ∀ p ∈ parameters r.query, ¬ p.isCall = true := List.any_eq_false.mp hcalls
  have hroute : Route.ofPath? r.path = some .report := by
    rw [hpath]
    rfl
  have handled := Handling.of_answer base r
  generalize answer base r = p at handled ⊢
  cases handled with
  | settled plain => exact ⟨_, plain, rfl⟩
  | following path method asked read =>
    obtain ⟨p, hp, hkey⟩ := exists_key_of_valueOf? asked
    exact absurd (by simp [Parameter.isCall, Parameter.hasKey, hkey]) (hnone p hp)
  | linking path method alone asked linked =>
    obtain ⟨p, hp, hkey⟩ := exists_key_of_valueOf? asked
    exact absurd (by simp [Parameter.isCall, Parameter.hasKey, hkey]) (hnone p hp)
  | displaying path => exact absurd (hroute.symm.trans path) (by simp)
  | creating path => exact absurd (hroute.symm.trans path) (by simp)

theorem not_mem_query (r : Request) : '#' ∉ r.query := by
  intro hmem
  have hin : '#' ∈ r.pathAndQuery := (List.dropWhile_suffix _).subset (List.mem_of_mem_drop hmem)
  have hne := List.mem_takeWhile_imp hin
  exact absurd hne (by decide)

/-- Who asks `/` and is answered 200 asked for a link and is given it, and it is kept. -/
theorem linked_of_ok (hmethod : r.method = .get) (hpath : r.path = ['/'])
    {state : Backing × FaultPlan}
    (hok : ((respond base r).run Backing.store.faulty state).value.status = .ok) :
    ∃ value query id, valueOf? followKey (parameters r.query) = none ∧
      valueOf? makeKey (parameters r.query) = some value ∧
      linkQuery? (parameters r.query) value = some query ∧
      ((respond base r).run Backing.store.faulty state).value.Carries
        ⟨id, base.target query⟩ (base.permalink id) ∧
      (Backing.store.answer (.findByUrl (base.target query))
        ((respond base r).run Backing.store.faulty state).state.1).1 = .ok (some id) := by
  rw [respond_run_get base hmethod, answer_of_report hpath hmethod] at hok ⊢
  obtain ⟨value, query, alone, asked, linked, hanswer⟩ := of_answerQuery_ok hok
  rw [hanswer] at hok ⊢
  obtain ⟨result, made, hvalue⟩ := make_run_made base (base.target query) .linked state
  rw [hvalue] at hok ⊢
  cases result with
  | error refusal => exact absurd hok (status_refused_ne_ok refusal)
  | ok id =>
    exact ⟨value, query, id, alone, asked, linked, LinkReply.linked.carries _ _, made.found⟩

end

/-- **A link that is asked for by query calls back in one case only**: the request has no parameters
    beside those that ask for a link, and the value of the first of them calls back itself. The base
    is an address without a fragment that does not call back, and whatever is kept and whatever
    faults there are, a request that is answered 200 is given the link that is kept; unless its url
    calls back, what is sent to the gateway for that url is answered without asking a store. -/
theorem linked_calls_back_iff {base : Base} (hhash : '#' ∉ base.text)
    (hown : callsBack (queryOf base.text) = false) {r : Request} (hmethod : r.method = .get)
    (hpath : r.path = ['/']) {state : Backing × FaultPlan}
    (hok : ((respond base r).run Backing.store.faulty state).value.status = .ok) :
    let ran := (respond base r).run Backing.store.faulty state
    ∃ value link, valueOf? makeKey (parameters r.query) = some value ∧
      ran.value.Carries link (base.permalink link.id) ∧
      (Backing.store.answer (.findByUrl link.url) ran.state.1).1 = .ok (some link.id) ∧
      (callsBack (sentQuery link.url) = true ↔
        keptParameters (parameters r.query) = [] ∧
          callsBack (withoutFragment (value.toList.dropWhile isSeparator)) = true) ∧
      (callsBack (sentQuery link.url) = false → ∀ r' : Request, r'.path = ['/'] →
        r'.query = sentQuery link.url →
          ∃ reply : Reply, reply.isSettled = true ∧ answer base r' = .done reply) := by
  intro ran
  obtain ⟨value, query, id, alone, asked, linked, carries, found⟩ := linked_of_ok hmethod hpath hok
  refine ⟨value, ⟨id, base.target query⟩, asked, carries, found, ?_, ?_⟩
  · show callsBack (sentQuery (base.target query)) = true ↔ _
    rw [callsBack_target hhash hown]
    exact linkQuery_callsBack_iff (not_mem_query r) alone linked
  · intro hcalls r' hpath' hquery
    rw [← hquery] at hcalls
    exact answer_of_not_callsBack hpath' hcalls

/-- Beside another parameter the value is not looked at, whatever it asks, and the parameters that
    ask for a link are taken off however they are spelt. -/
theorem linked_calls_back_iff_beside_another_parameter :
    let base : Base := .ofText "http://host/app?page=report&"
    let r : Request := ⟨.get, "/?make_redir=do_redir%3D1&a=%26&mak%65_redir=", [], .empty⟩
    let ran := (respond base r).run Backing.store.faulty (.memory .empty, .none)
    ('#' ∉ base.text ∧ callsBack (queryOf base.text) = false ∧ r.method = .get ∧ r.path = ['/'] ∧
      ran.value.status = .ok) ∧
    ∃ link, ran.value.Carries link (base.permalink link.id) ∧
      callsBack (sentQuery link.url) = false := by
  intro base r ran
  have hhash : '#' ∉ base.text := by decide
  have hown : callsBack (queryOf base.text) = false := by decide +kernel
  have hpath : r.path = ['/'] := by decide
  have hok : ran.value.status = .ok := by decide +kernel
  refine ⟨⟨hhash, hown, rfl, hpath, hok⟩, ?_⟩
  obtain ⟨value, link, -, carries, -, calls, -⟩ := linked_calls_back_iff hhash hown rfl hpath hok
  have hkept : keptParameters (parameters r.query) ≠ [] := by decide +kernel
  exact ⟨link, carries, eq_false_of_ne_true fun h => hkept (calls.mp h).1⟩

/-- **A link may lead to itself.** The value that asks for the first link is that link's own query:
    the url that is kept, the permanent link to it and where following it leads are all the same. -/
theorem links_to_itself :
    let base : Base := .ofText "http://host/app"
    let get (target : String) : Request := ⟨.get, target, [], .empty⟩
    let url := "http://host/app?do_redir=1"
    let made := (respond base (get "/?make_redir=do_redir%3D1")).run Backing.store.faulty
      (.memory .empty, .none)
    let followed := (respond base (get "/?do_redir=1")).run Backing.store.faulty made.state
    ('#' ∉ base.text ∧ callsBack (queryOf base.text) = false) ∧
      made.value.Carries ⟨⟨1⟩, url⟩ url ∧ sentQuery url = "do_redir=1".toList ∧
      callsBack (sentQuery url) = true ∧
      followed.value.status = .found ∧ followed.value.location = some url := by
  intro base get url made followed
  refine ⟨⟨by decide, by decide +kernel⟩, ⟨.inl ?_, ?_⟩, ?_, ?_, ?_, ?_⟩
  all_goals decide +kernel

end LinkLedger.Gateway
