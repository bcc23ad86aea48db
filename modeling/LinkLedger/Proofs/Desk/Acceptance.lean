import LinkLedger.Proofs.Address.Absolute
import LinkLedger.Proofs.Desk.Writing
import LinkLedger.Proofs.Gateway.Redirects

/-!
# What is checked, what is kept, what is sent

Which texts get a permanent link is laid down in terms of four classes of characters that were drawn
up by different people: the white space and the controls of Unicode, what reading an address drops,
and what a header may hold. `Desk.Linkable` lays it down, and here the classes are shown to fit
together. **The desk goes on with exactly the linkable urls, and what is read of such a url, what is
kept of it and what is sent of it are the same bytes** (`linkable_urls_are_kept_and_sent_whole`).
-/

set_option autoImplicit false

namespace LinkLedger

open LinkLedger.Http LinkLedger.Gateway LinkLedger.Unicode

namespace Desk

/-- The urls that get a permanent link. -/
structure Linkable (url : String) : Prop where
  not_empty : url ≠ ""
  short : url.toByteArray.size ≤ 2048
  begins : ∀ c, url.toList.head? = some c → isBlank c = false
  ends : ∀ c, url.toList.getLast? = some c → isBlank c = false
  no_control : ∀ c ∈ url.toList, isControl c = false
  address : ∃ target, Address.parse url = .ok target ∧
    (target.scheme = "http" ∨ target.scheme = "https")

theorem hasBlankEnd_eq_false_iff {text : List Char} :
    hasBlankEnd text = false ↔
      (∀ c, text.head? = some c → isBlank c = false) ∧
        ∀ c, text.getLast? = some c → isBlank c = false := by
  have each : ∀ o : Option Char, o.any isBlank = false ↔ ∀ c, o = some c → isBlank c = false := by
    intro o
    cases o <;> simp
  rw [hasBlankEnd, Bool.or_eq_false_iff, each, each]

theorem checkUrl_eq_ok_iff_linkable {url : String} : checkUrl url = .ok () ↔ Linkable url := by
  rw [checkUrl_eq_ok_iff, hasBlankEnd_eq_false_iff]
  constructor
  · rintro ⟨nonempty, short, ⟨begins, ends⟩, controls, address⟩
    have no_control : ∀ c ∈ url.toList, isControl c = false := by simpa using controls
    exact ⟨nonempty, short, begins, ends, no_control, address⟩
  · intro h
    have controls : url.toList.any isControl = false := by simpa using h.no_control
    exact ⟨h.not_empty, h.short, ⟨h.begins, h.ends⟩, controls, h.address⟩

variable {url : String}

/-! ## Past the check -/

theorem make_of_ok (h : checkUrl url = .ok ()) : ∃ next, make url = .ask (.findByUrl url) next := by
  simp only [make, h]
  exact ⟨_, rfl⟩

theorem make_asks_iff :
    (∃ next, make url = .ask (.findByUrl url) next) ↔ Linkable url := by
  rw [← checkUrl_eq_ok_iff_linkable]
  constructor
  · rintro ⟨next, asks⟩
    rcases checkUrl_cases url with ok | ⟨fault, bad⟩
    · exact ok
    · rw [make_of_error bad] at asks
      cases asks
  · exact make_of_ok

theorem make_refuses_iff :
    (∃ reason, make url = .done (.error (.invalidUrl reason))) ↔ ¬ Linkable url := by
  rw [← checkUrl_eq_ok_iff_linkable]
  rcases checkUrl_cases url with ok | ⟨fault, bad⟩
  · obtain ⟨next, asks⟩ := make_of_ok ok
    rw [asks]
    exact iff_of_false nofun (not_not_intro ok)
  · rw [make_of_error bad, bad]
    exact iff_of_true ⟨_, rfl⟩ nofun

/-! ## The same bytes -/

theorem Linkable.cleanUp_eq (h : Linkable url) : Address.cleanUp url.toList = url.toList := by
  have controls : url.toList.any isControl = false := by simpa using h.no_control
  exact Address.cleanUp_eq_self (hasBlankEnd_eq_false_iff.mpr ⟨h.begins, h.ends⟩) controls

theorem Linkable.bytes (h : Linkable url) : ∀ b ∈ url.toByteArray.toList, 0x20 ≤ b ∧ b ≠ 0x7F := by
  apply bytes_of_no_control
  simpa using h.no_control

/-- A request for a link leaves what is kept as it is, or adds the bytes of the url. -/
theorem rows_of_make (url : String) (state : Backing × FaultPlan) :
    ((make url).run Backing.store.faulty state).state.1.rows = state.1.rows ∨
      ∃ key, ((make url).run Backing.store.faulty state).state.1.rows =
        state.1.rows ++ [⟨key, .text url.toByteArray⟩] := by
  have made := Made.of_make url state
  generalize ((make url).run Backing.store.faulty state).value = value at made
  generalize ((make url).run Backing.store.faulty state).state.1 = after at made ⊢
  cases made with
  | refused | known => exact .inl rfl
  | added adds => exact .inr ⟨_, adds.rows_eq⟩

/-- A client that follows an id to an accepted url is sent on to the url. -/
theorem Linkable.sent {σ : Type} (h : Linkable url) (store : Store σ) (s : σ) (base : Base)
    {r : Request} {value : String} (asks : AsksToFollow r value) {id : LinkId}
    (read : LinkId.parse value = .ok id)
    (kept : (store.answer (.get id) s).1 = .ok (some ⟨id, url⟩)) :
    ((respond base r).run store s).value.status = .found ∧
      ((respond base r).run store s).value.location = some url := by
  obtain ⟨status, location⟩ := respond_followed store s base asks read
  have fits : isHeaderValue url = true :=
    isHeaderValue_of_accepted (checkUrl_eq_ok_iff_linkable.mpr h)
  rw [kept, followed, if_pos fits] at status location
  exact ⟨status, location⟩

/-- **The desk goes on with exactly the linkable urls, and they are kept and sent whole.** Any other
    url is refused before a store is asked. Of a linkable url

    * the reader of addresses drops nothing, and no byte of it is a control;
    * what is written down, wherever links are kept and whatever faults there are, are its bytes,
      which read as the url;
    * these bytes are the location that a client is sent to which follows the link. -/
theorem linkable_urls_are_kept_and_sent_whole (url : String) :
    ((∃ next, make url = .ask (.findByUrl url) next) ↔ Linkable url) ∧
    ((∃ reason, make url = .done (.error (.invalidUrl reason))) ↔ ¬ Linkable url) ∧
    (Linkable url →
      Address.cleanUp url.toList = url.toList ∧
      (∀ b ∈ url.toByteArray.toList, 0x20 ≤ b ∧ b ≠ 0x7F) ∧
      (Cell.text url.toByteArray).url = .ok url ∧
      (∀ state : Backing × FaultPlan,
        let after := ((make url).run Backing.store.faulty state).state.1
        after.rows = state.1.rows ∨
          ∃ key, after.rows = state.1.rows ++ [⟨key, .text url.toByteArray⟩]) ∧
      ∀ (state : Backing × FaultPlan) (base : Base) (r : Request) (value : String) (id : LinkId),
        AsksToFollow r value → LinkId.parse value = .ok id →
        (Backing.store.faulty.answer (.get id) state).1 = .ok (some ⟨id, url⟩) →
        let response := ((respond base r).run Backing.store.faulty state).value
        response.status = .found ∧ response.location = some url) := by
  refine ⟨make_asks_iff, make_refuses_iff, fun linkable => ⟨?_, ?_, ?_, ?_, ?_⟩⟩
  · exact linkable.cleanUp_eq
  · exact linkable.bytes
  · exact Cell.url_ofUrl url
  · exact rows_of_make url
  · intro state base r value id asks read kept
    exact linkable.sent Backing.store.faulty state base asks read kept

/-- A no-break space is a blank at the end of a url and stays inside of it, also where the link leads.
    U+0085 is a control anywhere. -/
theorem linkable_urls_are_kept_and_sent_whole_with_a_blank_inside :
    let url := "http://a.b/\u00A0é"
    let kept : Backing := .database ⟨⟨some ⟨[⟨1, .ofUrl url⟩], 1⟩⟩, .ready⟩
    let follow : Request := ⟨.get, "/?do_redir=1", [], .empty⟩
    Linkable url ∧ ¬ Linkable "http://a.b/é\u00A0" ∧ ¬ Linkable "http://a.b/\u0085x" ∧
      (∀ b ∈ url.toByteArray.toList, 0x20 ≤ b ∧ b ≠ 0x7F) ∧
      ((respond (.ofText "") follow).run Backing.store.faulty (kept, .none)).value.location =
        some url := by
  intro url kept follow
  have linkable : Linkable url := checkUrl_eq_ok_iff_linkable.mp (by decide +kernel)
  obtain ⟨-, bytes, -, -, sent⟩ := (linkable_urls_are_kept_and_sent_whole url).2.2 linkable
  have asks : AsksToFollow follow "1" := ⟨by decide, .inl rfl, by decide +kernel⟩
  refine ⟨linkable, ?_, ?_, bytes, ?_⟩
  · exact (linkable_urls_are_kept_and_sent_whole "http://a.b/é\u00A0").2.1.mp ⟨_, rfl⟩
  · exact (linkable_urls_are_kept_and_sent_whole "http://a.b/\u0085x").2.1.mp ⟨_, rfl⟩
  · exact (sent (kept, .none) (.ofText "") follow "1" ⟨1⟩ asks (by decide) (by decide +kernel)).2

end Desk

end LinkLedger
