import LinkLedger.Proofs.Address.Accepted
import LinkLedger.Proofs.Gateway.Permalinks
import LinkLedger.Proofs.Gateway.Replies
import LinkLedger.Proofs.Sessions

/-!
# Permanent links are permanent

A gateway with a new store in memory is sent requests of any kind. Whoever is given a link has it
written down (`of_carries`), links are only ever added, and while ids are left the look-ups find
what is written down. So the link is there whatever else is sent, and three requests show it: one
with the query of the permanent link, one for the path of the id, and the one that made it.

**`permalinks_are_permanent` puts this together**: it needs a base without a fragment that follows
no link of its own.
-/

set_option autoImplicit false

namespace LinkLedger.Gateway

open LinkLedger.Http LinkLedger.Text

/-! ## Asking for a link that is there -/

section

variable {l : Ledger} {id : LinkId} {url : String}

theorem follow_run_of_some (h : l.get? id = some ⟨id, url⟩) (sendable : isHeaderValue url = true) :
    ((follow id).run Ledger.store l).value = .redirect url := by
  simp [follow_run_value, Ledger.store, h, followed, sendable]

theorem display_run_of_some (h : l.get? id = some ⟨id, url⟩) :
    ((display id).run Ledger.store l).value = .shown ⟨id, url⟩ := by
  rw [display, Program.bind_eq, Program.run_bind, Desk.resolve_run_of_some h]
  rfl

variable {base : Base} (headers : List (String × String)) (body : ByteArray)

/-- A query that follows a link is answered by sending the client on. -/
theorem respond_follow {query : List Char} (hhash : '#' ∉ query)
    (hfollow : valueOf? followKey (parameters query) = some id.text)
    (h : l.get? id = some ⟨id, url⟩) (sendable : isHeaderValue url = true) :
    ((respond base ⟨.get, "/?" ++ String.ofList query, headers, body⟩).run Ledger.store l).value =
      { status := .found, location := some url } := by
  obtain ⟨hpath, hquery⟩ := path_query_of_report
    (r := ⟨.get, "/?" ++ String.ofList query, headers, body⟩) (by simp) hhash
  rw [respond_run, answer_report rfl hpath (hquery.symm ▸ hfollow), follow_run_of_some h sendable]
  rfl

/-- The path of an id is answered by showing the link. -/
theorem respond_display (h : l.get? id = some ⟨id, url⟩) :
    ((respond base ⟨.get, "/v1/permalinks/" ++ id.text, headers, body⟩).run Ledger.store l).value =
      .json .ok (Link.json ⟨id, url⟩) := by
  have hplain : ∀ {c : Char}, c ∉ "v1/permalinks/".toList → isDecimal c = false →
      c ∉ "v1/permalinks/".toList ++ id.text.toList := by
    intro c hfront hdigit
    rw [List.mem_append, not_or]
    exact ⟨hfront, id.not_mem_text hdigit⟩
  have hpath := path_of_plain (r := ⟨.get, "/v1/permalinks/" ++ id.text, headers, body⟩)
    String.toList_append (hplain (by decide) (by decide)) (hplain (by decide) (by decide))
  rw [respond_run, answer_link rfl hpath, display_run_of_some h]
  rfl

end

/-! ## The base -/

/-- Taking separators off adds nothing. -/
theorem ofText_subset (address : String) : (Base.ofText address).text ⊆ address.toList := by
  intro c hc
  have hreverse : c ∈ address.toList.reverse.dropWhile isSeparator := List.mem_reverse.mp hc
  exact List.mem_reverse.mp ((List.dropWhile_suffix _).subset hreverse)

/-! ## Any requests -/

/-- A gateway at an address, with a store in memory that was new, after some requests. -/
def serving (address : String) (requests : List Request) : Session :=
  (Session.use (.memory .empty) (.ofText address) (requests.map .send)).1

/-- The ledger that it holds then. -/
def served (address : String) (requests : List Request) : Ledger :=
  (Session.onLedger (.ofText address) (requests.map .send)).1

/-- The next response is the one that the ledger gives. -/
theorem step_serving (address : String) (requests : List Request) (r : Request) :
    ((serving address requests).step (.send r)).value =
      .response
        ((respond (.ofText address) r).run Ledger.store (served address requests)).value := by
  refine (Session.step_use_memory _ _ (.send r)).trans ?_
  rw [Operation.program, Program.run_bind]
  rfl

/-- What a request writes down stays there. -/
theorem mem_served {address : String} {before : List Request} {r : Request} {link : Link}
    (h : link ∈
      ((respond (.ofText address) r).run Ledger.store (served address before)).state.links)
    (after : List Request) : link ∈ (served address (before ++ r :: after)).links := by
  have hnext : (served address (before ++ [r])).links =
      ((respond (.ofText address) r).run Ledger.store (served address before)).state.links := by
    rw [served, List.map_append, Session.onLedger_append]
    simp [Operation.program, Program.run_bind, served]
  have hprefix :
      (before ++ [r]).map Operation.send <+: (before ++ r :: after).map Operation.send := by
    rw [List.append_cons before r after]
    exact (List.prefix_append _ _).map _
  apply (Session.links_prefix_onLedger (.ofText address) hprefix).subset
  rw [← hnext] at h
  exact h

/-- **Permanent links are permanent.** Among any requests to a gateway with a new store in memory
    there is one whose response has status 200 or 201 and carries a link. Then after any requests
    that follow it, as long as there are fewer links than ids,

    * `/` with the query of the permanent link redirects to exactly the url of the link;
    * the path of the id shows exactly the link;
    * the same request has the same response.

    The address of the gateway has no fragment, and its own query, if it has one, follows no link.
    -/
theorem permalinks_are_permanent (address : String) (noFragment : '#' ∉ address.toList)
    (noFollow : ∀ p ∈ parameters (queryOf (Base.ofText address).text), p.field.key ≠ followKey)
    (before : List Request) (r : Request) (after : List Request)
    (few : ∃ n < idCount,
      (serving address (before ++ r :: after)).backing.size = .ok (.links n))
    {response : Response} {link : Link} {permalink : String}
    (answered : ((serving address before).step (.send r)).value = .response response)
    (carries : response.Carries link permalink) :
    (∀ headers body, ((serving address (before ++ r :: after)).step (.send
        ⟨.get, "/?" ++ String.ofList (queryOf permalink.toList), headers, body⟩)).value =
      .response { status := .found, location := some link.url }) ∧
    (∀ headers body, ((serving address (before ++ r :: after)).step (.send
        ⟨.get, "/v1/permalinks/" ++ link.id.text, headers, body⟩)).value =
      .response (.json .ok link.json)) ∧
    ((serving address (before ++ r :: after)).step (.send r)).value = .response response := by
  obtain ⟨n, hn, hsize⟩ := few
  rw [serving, Session.size_run_memory] at hsize
  cases hsize
  rw [step_serving, Outcome.response.injEq] at answered
  obtain ⟨ok, written, rfl, again⟩ := of_carries answered carries
  have kept := mem_served written after
  have coherent : (served address (before ++ r :: after)).Coherent _ :=
    Session.coherent_onLedger _ _ hn
  have found : (served address (before ++ r :: after)).get? link.id = some ⟨link.id, link.url⟩ :=
    coherent.get?_eq_some_iff.mpr kept
  have noHash : '#' ∉ (Base.ofText address).text := fun hmem => noFragment (ofText_subset _ hmem)
  refine ⟨?_, ?_, ?_⟩
  · intro headers body
    have followed := valueOf?_permalink (valueOf?_eq_none_iff.mpr noFollow) link.id
    rw [step_serving, respond_follow headers body (not_mem_queryOf_permalink noHash link.id)
      followed found (isHeaderValue_of_accepted ok)]
  · intro headers body
    rw [step_serving, respond_display headers body found]
  · have same : ((Desk.make link.url).run Ledger.store
        (served address (before ++ r :: after))).value = .ok link.id := by
      rw [Desk.make_run_of_mem ok ((Ledger.idOf?_eq_some_iff coherent.urls_nodup).mpr kept)]
    rw [step_serving, again _ same]

/-- An address with a query of its own and a separator too many; another link is made in between. -/
theorem permalinks_are_permanent_after_another :
    let address := "https://a.b/r?x=1&"
    let first : Request := ⟨.get, "/?make_redir=1&a=2", [], .empty⟩
    let second : Request := ⟨.get, "/?make_redir=1&a=3", [], .empty⟩
    let response : Response :=
      .json .ok (linkJson ⟨⟨1⟩, "https://a.b/r?x=1&a=2"⟩ "https://a.b/r?x=1&do_redir=1")
    ((serving address []).step (.send first)).value = .response response ∧
      ((serving address [first, second]).step
          (.send ⟨.get, "/?x=1&do_redir=1", [], .empty⟩)).value =
        .response { status := .found, location := some "https://a.b/r?x=1&a=2" } ∧
      ((serving address [first, second]).step (.send first)).value = .response response := by
  intro address first second response
  have noFollow : ∀ p ∈ parameters (queryOf (Base.ofText address).text),
      p.field.key ≠ followKey := by decide +kernel
  have size : (serving address ([] ++ first :: [second])).backing.size = .ok (.links 2) := by
    decide +kernel
  have answered : ((serving address []).step (.send first)).value = .response response := by
    rw [step_serving]
    exact congrArg Outcome.response (by decide +kernel)
  obtain ⟨followed, -, again⟩ := permalinks_are_permanent address (by decide) noFollow [] first
    [second] ⟨2, by decide, size⟩ answered ⟨.inl rfl, rfl⟩
  exact ⟨answered, followed [] .empty, again⟩

end LinkLedger.Gateway
