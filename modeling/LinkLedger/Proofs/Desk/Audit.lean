import LinkLedger.Proofs.Courses
import LinkLedger.Proofs.Desk.Numbering
import LinkLedger.Proofs.Desk.Writing
import LinkLedger.Proofs.Gateway.Discretion

/-!
# The record of creations

A link is added by an answer of the store, and that it was created is reported afterwards, by the
desk. `Desk.Making` lists the courses of a request for a link, and each course gives an account of
itself (`Desk.Account`): what was added is what was reported. So, behind any faults, **the desk's log
of creations is the list of links that were added through it** (`creations_are_on_record`).

The desk warns if a url that cannot be inserted cannot be found either, and it fails with words of
its own then. The words alone do not tell, since a store may fail with the same ones
(`the_words_of_the_warning_can_be_borrowed`).
-/

set_option autoImplicit false

namespace LinkLedger

open LinkLedger.Gateway (disappeared)

/-! ## What the desk reports -/

/-- A link as the report of its creation. -/
def Link.creation (link : Link) : Event := .created link.id link.url

namespace Desk

/-- The part of the program that the desk reports as. -/
def voice : String := "permalink_service::service"

/-- What the desk reports among other events. -/
def reports (events : List Event) : List Event := events.filter fun e => e.target = voice

/-- What the desk informs of: links that were created, if its log is right. -/
def news (events : List Event) : List Event := (reports events).filter fun e => e.level = .info

theorem news_append (first more : List Event) : news (first ++ more) = news first ++ news more := by
  simp [news, reports]

/-- A store that does not report as the desk. -/
def Unheard {σ : Type} (store : Store σ) : Prop :=
  ∀ call s, ∀ e ∈ store.remarks call s, e.target ≠ voice

end Desk

/-- The failure of a store that an errand ended in. -/
def Outcome.failure? : Outcome → Option StoreFailure
  | .made result => Desk.failure? result
  | .resolved result => Desk.failure? result
  | _ => none

/-- The links that exchanges added, in order. -/
def additions (exchanges : List Exchange) : List Link := exchanges.filterMap Exchange.added?

/-- An exchange that ended in this failure. -/
def Exchange.FailedWith (failure : StoreFailure) (x : Exchange) : Prop :=
  x.answer = x.call.failed failure

namespace Desk

/-! ## The courses of the two errands -/

/-- How a request for the link to a url goes. -/
inductive Making (url : String) :
    List Exchange → List Event → Except Refusal LinkId → Prop
  | refused (reason : String) : Making url [] [] (.error (.invalidUrl reason))
  | reused (id : LinkId) :
    Making url [⟨.findByUrl url, .ok (some id)⟩] [.reused id url] (.ok id)
  | created (id : LinkId) :
    Making url [⟨.findByUrl url, .ok none⟩, ⟨.insert url, .ok id⟩] [.created id url] (.ok id)
  /-- Somebody else was faster. -/
  | raceLost {conflict : StoreFailure} (id : LinkId) :
    Making url
      [⟨.findByUrl url, .ok none⟩, ⟨.insert url, .error conflict⟩, ⟨.findByUrl url, .ok (some id)⟩]
      [.raceLost url] (.ok id)
  /-- Nobody was faster, and still the url could not be inserted. -/
  | winnerMissing {conflict : StoreFailure} (lost : conflict.kind = .conflict) :
    Making url
      [⟨.findByUrl url, .ok none⟩, ⟨.insert url, .error conflict⟩, ⟨.findByUrl url, .ok none⟩]
      [.raceLost url, .winnerMissing url] (.error (.store (disappeared url)))
  /-- The store failed, first or last. -/
  | failed (before : List Exchange) (call : Call) {events : List Event} {failure : StoreFailure}
    (nothing : additions (before ++ [⟨call, call.failed failure⟩]) = [])
    (plain : events = [] ∨ events = [.raceLost url]) :
    Making url (before ++ [⟨call, call.failed failure⟩]) events (.error (.store failure))

variable {url : String} {exchanges : List Exchange} {events : List Event}

theorem Making.of_lookUpWinner {result : Except Refusal LinkId} {conflict : StoreFailure}
    (lost : conflict.kind = .conflict) (h : (lookUpWinner url).Course exchanges events result) :
    Making url (⟨.findByUrl url, .ok none⟩ :: ⟨.insert url, .error conflict⟩ :: exchanges)
      (.raceLost url :: events) result := by
  cases h with
  | ask answer rest =>
    rcases answer with failure | _ | id
    · cases rest
      exact .failed [⟨.findByUrl url, .ok none⟩, ⟨.insert url, .error conflict⟩] (.findByUrl url) rfl
        (.inr rfl)
    · cases rest with
      | report rest =>
        cases rest
        exact .winnerMissing lost
    · cases rest
      exact .raceLost id

theorem Making.of_insertNew {result : Except Refusal LinkId}
    (h : (insertNew url).Course exchanges events result) :
    Making url (⟨.findByUrl url, .ok none⟩ :: exchanges) events result := by
  cases h with
  | ask answer rest =>
    rcases answer with failure | id
    · dsimp only at rest
      by_cases lost : failure.kind = .conflict
      · rw [if_pos lost] at rest
        cases rest with
        | report rest => exact .of_lookUpWinner lost rest
      · rw [if_neg lost] at rest
        cases rest
        exact .failed [⟨.findByUrl url, .ok none⟩] (.insert url) rfl (.inl rfl)
    · cases rest with
      | report rest =>
        cases rest
        exact .created id

theorem Making.of_make {result : Except Refusal LinkId}
    (h : (make url).Course exchanges events result) : Making url exchanges events result := by
  rcases checkUrl_cases url with ok | ⟨fault, bad⟩
  · simp only [make, ok] at h
    cases h with
    | ask answer rest =>
      rcases answer with failure | _ | id
      · cases rest
        exact .failed [] (.findByUrl url) rfl (.inl rfl)
      · exact .of_insertNew rest
      · cases rest with
        | report rest =>
          cases rest
          exact .reused id
  · rw [make_of_error bad] at h
    cases h
    exact .refused _

/-! ## Accounts -/

/-- The account that an errand gives of itself. -/
structure Account (errand : Errand) (exchanges : List Exchange) (events : List Event)
    (outcome : Outcome) : Prop where
  /-- The creations that are reported are the links that were added. -/
  news_eq : news events = (additions exchanges).map Link.creation
  /-- A link that was not added was there before, or somebody else was faster. -/
  found : ∀ url id, errand = .make url → outcome = .made (.ok id) → additions exchanges = [] →
    .reused id url ∈ reports events ∨ .raceLost url ∈ reports events
  /-- There is a warning exactly if a url disappeared and not the store said so. -/
  warned : (∃ e ∈ reports events, e.level = .warn) ↔
    ∃ url, outcome.failure? = some (disappeared url) ∧
      ∀ x ∈ exchanges, ¬ x.FailedWith (disappeared url)

/-- Where nothing was added and nothing was warned of, the store failed or the errand did not. -/
theorem Account.of_calm {errand : Errand} {outcome : Outcome}
    (nothing : additions exchanges = [])
    (calm : ∀ e ∈ reports events, e.level ≠ .info ∧ e.level ≠ .warn)
    (found : ∀ url id, errand = .make url → outcome = .made (.ok id) →
      .reused id url ∈ reports events ∨ .raceLost url ∈ reports events)
    (said : ∀ failure, outcome.failure? = some failure → ∃ x ∈ exchanges, x.FailedWith failure) :
    Account errand exchanges events outcome where
  news_eq := by
    rw [nothing]
    exact List.filter_eq_nil_iff.mpr fun e he => by simpa using (calm e he).1
  found url id make made _ := found url id make made
  warned := by
    constructor
    · rintro ⟨e, he, warn⟩
      exact absurd warn (calm e he).2
    · rintro ⟨url, failed, unsaid⟩
      obtain ⟨x, hx, same⟩ := said _ failed
      exact absurd same (unsaid x hx)

theorem Account.of_making {result : Except Refusal LinkId} (h : Making url exchanges events result) :
    Account (.make url) exchanges events (.made result) := by
  cases h with
  | refused reason =>
    refine .of_calm rfl ?_ ?_ ?_
    · intro e he
      cases he
    · intro url id _ made
      cases made
    · intro failure failed
      cases failed
  | reused id =>
    refine .of_calm rfl ?_ ?_ ?_
    · simp [reports, Event.target, voice, Event.level]
    · intro url' id' make made
      cases make
      cases made
      simp [reports, Event.target, voice]
    · intro failure failed
      cases failed
  | raceLost id =>
    refine .of_calm rfl ?_ ?_ ?_
    · simp [reports, Event.target, voice, Event.level]
    · intro url' id' make made
      cases make
      simp [reports, Event.target, voice]
    · intro failure failed
      cases failed
  | failed before call nothing plain =>
    refine .of_calm nothing ?_ ?_ ?_
    · rcases plain with rfl | rfl <;> simp [reports, Event.target, voice, Event.level]
    · intro url id _ made
      cases made
    · intro failure failed
      cases failed
      exact ⟨_, List.mem_append_right _ List.mem_cons_self, rfl⟩
  | created id =>
    refine ⟨?_, ?_, ?_⟩
    · have heard : news [.created id url] = [.created id url] := by
        simp [news, reports, Event.target, voice, Event.level]
      rw [heard]
      rfl
    · intro url' id' _ _ nothing
      cases nothing
    · simp [reports, Event.target, voice, Event.level, Outcome.failure?, failure?]
  | winnerMissing lost =>
    refine ⟨?_, ?_, ?_⟩
    · simp [news, reports, additions, Event.target, voice, Event.level, Exchange.added?]
    · intro url id _ made
      cases made
    · refine iff_of_true ⟨.winnerMissing url, by simp [reports, Event.target, voice], rfl⟩ ?_
      refine ⟨url, rfl, ?_⟩
      -- a conflict has another kind, and the look-ups did not fail
      intro x hx said
      simp only [List.mem_cons, List.not_mem_nil, or_false] at hx
      rcases hx with rfl | rfl | rfl
      · cases said
      · cases said
        cases lost
      · cases said

theorem Account.of_resolve {id : LinkId} {result : Except Refusal String}
    (h : (resolve id).Course exchanges events result) :
    Account (.resolve id) exchanges events (.resolved result) := by
  cases h with
  | report rest =>
  cases rest with
  | ask answer rest =>
    rcases answer with failure | _ | link
    · cases rest
      refine .of_calm rfl ?_ nofun ?_
      · simp [reports, Event.target, voice, Event.level]
      · intro f failed
        cases failed
        exact ⟨_, List.mem_cons_self, rfl⟩
    · cases rest with
      | report rest =>
        cases rest
        refine .of_calm rfl ?_ nofun nofun
        simp [reports, Event.target, voice, Event.level]
    · cases rest with
      | report rest =>
        cases rest
        refine .of_calm rfl ?_ nofun nofun
        simp [reports, Event.target, voice, Event.level]

/-- **Every course of an errand gives its account.** -/
theorem Account.of_course {errand : Errand} {base : Gateway.Base} {outcome : Outcome}
    (h : (errand.operation.program base).Course exchanges events outcome) :
    Account errand exchanges events outcome := by
  cases errand with
  | make url =>
    obtain ⟨result, course, rfl⟩ := Program.Course.of_map h
    exact .of_making (.of_make course)
  | resolve id =>
    obtain ⟨result, course, rfl⟩ := Program.Course.of_map h
    exact .of_resolve course

/-! ## Any store, any faults -/

section

variable {σ : Type} {store : Store σ} {links : σ → List Link}

theorem Unheard.faulty (h : Unheard store) : Unheard store.faulty :=
  fun call state e he => h call state.1 e (store.remarks_of_faulty call he)

/-- One errand adds links, and gives an account of them. -/
theorem errand_accounts (keeps : store.Keeps links) (unheard : Unheard store) (base : Gateway.Base)
    (errand : Errand) (s : σ) :
    let p := errand.operation.program base
    links (p.run store s).state = links s ++ additions (p.exchanges store s) ∧
      Account errand (p.exchanges store s) (p.run store s).events (p.run store s).value := by
  intro p
  have silent : ∀ call s, ∀ e ∈ store.remarks call s, (decide (e.target = voice)) = false :=
    fun call s e he => decide_eq_false (unheard call s e he)
  obtain ⟨events, course, same⟩ := Program.Course.of_run silent p s
  obtain ⟨news_eq, found, warned⟩ := Account.of_course course
  have heard : reports (p.run store s).events = reports events := same
  refine ⟨keeps.run p s, ⟨?_, ?_, ?_⟩⟩
  · rw [news, heard]
    exact news_eq
  · rw [heard]
    exact found
  · rw [heard]
    exact warned

/-- Errands in a row report what they add. -/
theorem errands_account (keeps : store.Keeps links) (unheard : Unheard store) (base : Gateway.Base)
    (errands : List Errand) (s : σ) :
    let ran := Program.runAll store (errands.map fun errand => errand.operation.program base) s
    ∃ added, links ran.1 = links s ++ added ∧
      news (ran.2.flatMap Prod.snd) = added.map Link.creation := by
  induction errands generalizing s with
  | nil => exact ⟨[], (List.append_nil _).symm, rfl⟩
  | cons errand more ih =>
    obtain ⟨first, account⟩ := errand_accounts keeps unheard base errand s
    obtain ⟨added, later, news_eq⟩ := ih ((errand.operation.program base).run store s).state
    refine ⟨additions ((errand.operation.program base).exchanges store s) ++ added, ?_, ?_⟩
    · rw [List.map_cons, Program.runAll_cons, later, first, List.append_assoc]
    · rw [List.map_cons, Program.runAll_cons, List.flatMap_cons, news_append, account.news_eq,
        news_eq, List.map_append]

end

end Desk

/-! ## The stores that there are -/

def Row.link? (row : Row) : Option Link :=
  match LinkId.ofKey row.key, row.cell.url with
  | .ok id, .ok url => some ⟨id, url⟩
  | _, _ => none

theorem Link.link?_row (link : Link) : link.row.link? = some link := by
  simp only [Row.link?, Link.row, LinkId.ofKey_natCast, Cell.url_ofUrl, LinkId.ofNat_toNat]

namespace Backing

/-- The links that are kept, oldest first. -/
def links (b : Backing) : List Link := b.rows.filterMap Row.link?

theorem keeps : store.Keeps links := by
  intro call b
  cases call with
  | findByUrl url =>
    rw [lookUp_state (.findByUrl url) rfl]
    exact (List.append_nil _).symm
  | get id =>
    rw [lookUp_state (.get id) rfl]
    exact (List.append_nil _).symm
  | insert url =>
    rcases insert_fails_or_adds url b with ⟨failure, answer⟩ | ⟨id, after, answer, adds⟩
    · rw [answer]
      exact (List.append_nil _).symm
    · rw [answer]
      show after.links = b.links ++ [⟨id, url⟩]
      rw [links, adds.rows_eq, List.filterMap_append, List.filterMap_cons, Link.link?_row]
      rfl

theorem unheard : Desk.Unheard store := by
  intro call b e he
  cases b with
  | memory m => cases he
  | database p => cases he
  | closedServer =>
    cases call with
    | get id =>
      obtain rfl := List.mem_singleton.mp he
      simp [Event.target, Desk.voice]
    | findByUrl url => cases he
    | insert url => cases he

end Backing

namespace Desk

/-- **The creations on record are the links that were added.** Take a store that keeps links and does
    not report as the desk, and put any layer of faults between the two.

    * Over any errands in a row, the news of the desk are the links that the store has more
      afterwards, each once and in the order in which they were added.
    * Each errand gives its account: the same for itself; a url whose link was not added was found,
      at once or after a lost race; and there is a warning exactly if the errand ended because a url
      disappeared, and it was not the store that said so. -/
theorem creations_are_on_record {σ : Type} {store : Store σ} {links : σ → List Link}
    (keeps : store.Keeps links) (unheard : Unheard store) (base : Gateway.Base) :
    (∀ (errands : List Errand) (state : σ × FaultPlan),
      let ran := Program.runAll store.faulty
        (errands.map fun errand => errand.operation.program base) state
      ∃ added, links ran.1.1 = links state.1 ++ added ∧
        news (ran.2.flatMap Prod.snd) = added.map Link.creation) ∧
    ∀ (errand : Errand) (state : σ × FaultPlan),
      let p := errand.operation.program base
      let ran := p.run store.faulty state
      links ran.state.1 = links state.1 ++ additions (p.exchanges store.faulty state) ∧
        Account errand (p.exchanges store.faulty state) ran.events ran.value :=
  ⟨errands_account keeps.faulty unheard.faulty base,
    errand_accounts keeps.faulty unheard.faulty base⟩

/-- A false conflict over a url that is not there, the same url made, hidden and made again, and
    followed. One link was added, one creation reported, and the first errand, which warned, failed
    because the url disappeared. -/
theorem creations_are_on_record_after_a_false_conflict :
    let base : Gateway.Base := .ofText ""
    let errands : List Errand :=
      [.make "http://a.b/", .make "http://a.b/", .make "http://a.b/", .resolve ⟨1⟩]
    let state : Backing × FaultPlan :=
      (.memory .empty, ⟨[.pass, .pass, .pass, .miss], [.fail ⟨.conflict, "false"⟩], []⟩)
    let ran := Program.runAll Backing.store.faulty
      (errands.map fun errand => errand.operation.program base) state
    let first := ((Operation.make "http://a.b/").program base).run Backing.store.faulty state
    ran.1.1.links = [⟨⟨1⟩, "http://a.b/"⟩] ∧
      news (ran.2.flatMap Prod.snd) = [.created ⟨1⟩ "http://a.b/"] ∧
      first.events = [.raceLost "http://a.b/", .winnerMissing "http://a.b/"] ∧
      ∃ url, first.value.failure? = some (disappeared url) := by
  intro base errands state ran first
  obtain ⟨run, accounts⟩ := creations_are_on_record Backing.keeps Backing.unheard base
  have links : ran.1.1.links = [⟨⟨1⟩, "http://a.b/"⟩] := by decide +kernel
  obtain ⟨added, grown, news_eq⟩ := run errands state
  have same : [⟨⟨1⟩, "http://a.b/"⟩] = added := links.symm.trans grown
  have events : first.events = [.raceLost "http://a.b/", .winnerMissing "http://a.b/"] := by
    decide +kernel
  obtain ⟨-, account⟩ := accounts (.make "http://a.b/") state
  have warned : ∃ e ∈ reports first.events, e.level = .warn := by
    rw [events]
    decide
  obtain ⟨url, failed, -⟩ := account.warned.mp warned
  exact ⟨links, by rw [news_eq, ← same]; rfl, events, url, failed⟩

/-- **The words of the warning can be borrowed**: a store that fails with the words of the desk makes
    a request fail with them, and nobody warns. -/
theorem the_words_of_the_warning_can_be_borrowed :
    let url := "http://a.b/"
    let state : Backing × FaultPlan := (.memory .empty, ⟨[.fail (disappeared url)], [], []⟩)
    let ran := (make url).run Backing.store.faulty state
    ran.value = .error (.store (disappeared url)) ∧ ran.events = [] := by
  decide +kernel

end Desk

end LinkLedger
