import LinkLedger.Desk
import LinkLedger.Proofs.Store.Healthy

/-!
# What making and resolving do to a ledger

Run alone against the ledger, each of the two requests ends in one of a few ways, and its lemma
names the value, the ledger afterwards and the events.

* `make_run_refused`: a url that is not accepted is refused. No store is asked.
* `make_run_of_mem`, `make_run_of_not_mem`: an accepted url gets the id it has, or the next one.
* `resolve_run_of_some`, `resolve_run_of_none`: an id leads to the url written under it, or nowhere.

`distinctUrls urls` is what any number of these requests can add to an empty ledger: the accepted
urls, each once, in the order in which they appear.
-/

set_option autoImplicit false

namespace LinkLedger.Desk

/-! ## Accepted urls -/

/-- Whether a url may be kept. -/
def isAccepted (url : String) : Bool := (checkUrl url).isOk

theorem isAccepted_iff {url : String} : isAccepted url = true ↔ checkUrl url = .ok () := by
  unfold isAccepted
  cases checkUrl url with
  | error fault => simp [Except.isOk, Except.toBool]
  | ok _ => simp [Except.isOk, Except.toBool]

theorem checkUrl_cases (url : String) :
    checkUrl url = .ok () ∨ ∃ fault, checkUrl url = .error fault := by
  cases h : checkUrl url with
  | ok _ => exact .inl rfl
  | error fault => exact .inr ⟨fault, rfl⟩

/-- The accepted urls among some, each once, in order of first appearance. -/
def distinctUrls (urls : List String) : List String := (urls.filter isAccepted).eraseDups

theorem mem_distinctUrls {urls : List String} {url : String} :
    url ∈ distinctUrls urls ↔ url ∈ urls ∧ checkUrl url = .ok () := by
  rw [distinctUrls, List.mem_eraseDups, List.mem_filter, isAccepted_iff]

theorem distinctUrls_concat_of_old {urls : List String} {url : String}
    (h : checkUrl url ≠ .ok () ∨ url ∈ distinctUrls urls) :
    distinctUrls (urls ++ [url]) = distinctUrls urls := by
  rw [distinctUrls, List.filter_append, List.eraseDups_append]
  by_cases hok : isAccepted url = true
  · have hmem : url ∈ urls := by
      rcases h with hbad | hold
      · exact absurd (isAccepted_iff.mp hok) hbad
      · exact (mem_distinctUrls.mp hold).1
    simp [distinctUrls, List.removeAll, hok, hmem]
  · simp [distinctUrls, List.removeAll, hok]

theorem distinctUrls_concat_of_new {urls : List String} {url : String}
    (hok : checkUrl url = .ok ()) (hnew : url ∉ distinctUrls urls) :
    distinctUrls (urls ++ [url]) = distinctUrls urls ++ [url] := by
  have hmem : url ∉ urls := fun hmem => hnew (mem_distinctUrls.mpr ⟨hmem, hok⟩)
  rw [distinctUrls, List.filter_append, List.eraseDups_append]
  simp [distinctUrls, List.removeAll, isAccepted_iff.mpr hok, hmem,
    List.eraseDups_cons]

theorem nodup_distinctUrls (urls : List String) : (distinctUrls urls).Nodup := by
  induction urls using List.reverseRecOn with
  | nil => exact List.nodup_nil
  | append_singleton urls url ih =>
    by_cases hok : checkUrl url = .ok ()
    · by_cases hmem : url ∈ distinctUrls urls
      · rwa [distinctUrls_concat_of_old (.inr hmem)]
      · rw [distinctUrls_concat_of_new hok hmem]
        simpa using ih.concat hmem
    · rwa [distinctUrls_concat_of_old (.inl hok)]

/-! ## Making -/

section

variable {σ : Type}

theorem make_of_error {url : String} {fault : UrlFault} (h : checkUrl url = .error fault) :
    make url = .done (.error (.invalidUrl fault.message)) := by
  simp only [make, h]

/-- A url that is not accepted is refused, whatever the store. -/
theorem make_run_refused (store : Store σ) (s : σ) {url : String} {fault : UrlFault}
    (h : checkUrl url = .error fault) :
    (make url).run store s = ⟨.error (.invalidUrl fault.message), s, []⟩ := by
  rw [make_of_error h, Program.run_done]

end

variable {l : Ledger} {url : String}

theorem make_run_of_mem {id : LinkId} (hok : checkUrl url = .ok ()) (hid : l.idOf? url = some id) :
    (make url).run Ledger.store l = ⟨.ok id, l, [.reused id url]⟩ := by
  simp [make, hok, Ledger.store, hid]

theorem make_run_of_not_mem (hok : checkUrl url = .ok ()) (hnew : url ∉ l.urls) :
    (make url).run Ledger.store l = ⟨.ok l.next, l.push url, [.created l.next url]⟩ := by
  have hnone := Ledger.idOf?_eq_none_iff.mpr hnew
  simp [make, insertNew, hok, Ledger.store, hnone, Ledger.insert_of_not_mem hnew]

/-- An id that was given for a url is written down with it, and the url was accepted. -/
theorem of_make_run_eq_ok {id : LinkId} (h : ((make url).run Ledger.store l).value = .ok id) :
    checkUrl url = .ok () ∧ ⟨id, url⟩ ∈ ((make url).run Ledger.store l).state.links := by
  rcases checkUrl_cases url with ok | ⟨fault, bad⟩
  · refine ⟨ok, ?_⟩
    cases hid : l.idOf? url with
    | some id' =>
      rw [make_run_of_mem ok hid] at h ⊢
      cases h
      exact Ledger.mem_of_idOf?_eq_some hid
    | none =>
      rw [make_run_of_not_mem ok (Ledger.idOf?_eq_none_iff.mp hid)] at h ⊢
      cases h
      simp [Ledger.push]
  · rw [make_run_refused _ _ bad] at h
    cases h

/-! ## Resolving -/

/-- What resolving an id makes of the answer to its one question. -/
def resolved (id : LinkId) : Except StoreFailure (Option Link) → Except Refusal String
  | .error failure => .error (.store failure)
  | .ok none => .error (.notFound id)
  | .ok (some link) => .ok link.url

theorem resolve_run_value {σ : Type} (store : Store σ) (s : σ) (id : LinkId) :
    ((resolve id).run store s).value = resolved id (store.answer (.get id) s).1 := by
  simp only [resolve, Program.run_report, Program.run_ask]
  rcases (store.answer (.get id) s).1 with failure | _ | link <;> rfl

theorem resolve_run_of_some {id : LinkId} {link : Link} (h : l.get? id = some link) :
    (resolve id).run Ledger.store l =
      ⟨.ok link.url, l, [.resolving id, .resolved id link.url]⟩ := by
  simp [resolve, Ledger.store, h]

theorem resolve_run_of_none {id : LinkId} (h : l.get? id = none) :
    (resolve id).run Ledger.store l =
      ⟨.error (.notFound id), l, [.resolving id, .unknown id]⟩ := by
  simp [resolve, Ledger.store, h]

end LinkLedger.Desk
