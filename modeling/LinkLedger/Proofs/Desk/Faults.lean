import LinkLedger.Proofs.Desk.Agreement
import LinkLedger.Proofs.Store.Reliable

/-!
# Requests through a layer of faults

A request for a link asks a reliable store up to three questions, and between the two stands a layer
that may fail any of them, or hide a url from a look-up. Whatever it does, the request comes to one
of three endings (`Ending`): it is refused and nothing is written down, it is given the id that is
written down, or its url is written down under the next id. `Ending.of_make` follows the three
questions, `Ending.of_makes` any number of requests.

**`make_is_all_or_nothing` is what a client may rely on**: an id that is given leads to the url, a
refusal leaves the ledger as it was, and once the faults are used up requests are served again.
-/

set_option autoImplicit false

namespace LinkLedger.Desk

variable {σ : Type} {store : Store σ} {holds : σ → Ledger → Prop} {limit : Nat}
  {state : σ × FaultPlan} {l : Ledger} {n : Nat} {url : String}

/-! ## Endings -/

/-- What a request for the link to a url comes to, and the ledger afterwards. -/
inductive Ending (l : Ledger) (url : String) : Except Refusal LinkId → Ledger → Prop
  /-- Nothing is written down. -/
  | refused (refusal : Refusal) : Ending l url (.error refusal) l
  /-- The url was written down before. -/
  | known {id : LinkId} (written : l.idOf? url = some id) : Ending l url (.ok id) l
  /-- The url is accepted and new, and gets the next id. -/
  | added (ok : checkUrl url = .ok ()) (fresh : url ∉ l.urls) :
    Ending l url (.ok l.next) (l.push url)

namespace Ending

variable {result : Except Refusal LinkId} {after : Ledger}

theorem links_prefix (h : Ending l url result after) : l.links <+: after.links := by
  cases h with
  | refused refusal => exact List.prefix_rfl
  | known written => exact List.prefix_rfl
  | added ok fresh => exact List.prefix_append _ _

/-- An id that is given is written down with the url. -/
theorem mem_links {id : LinkId} (h : Ending l url (.ok id) after) : ⟨id, url⟩ ∈ after.links := by
  cases h with
  | known written => exact Ledger.mem_of_idOf?_eq_some written
  | added ok fresh => simp [Ledger.push]

/-- What a request adds, it takes from the urls that can still be added. -/
theorem size_add_fresh_le (h : Ending l url result after) (urls : List String) :
    after.size + (freshUrls after urls).length ≤ l.size + (freshUrls l (url :: urls)).length := by
  have fewer : ∀ {new : List String}, new.Nodup → new ⊆ freshUrls l (url :: urls) →
      new.length ≤ (freshUrls l (url :: urls)).length :=
    fun nodup sub => (List.subperm_of_subset nodup sub).length_le
  have kept : (freshUrls l urls).length ≤ (freshUrls l (url :: urls)).length := by
    refine fewer (nodup_freshUrls l urls) fun u hu => ?_
    obtain ⟨⟨hmem, ok⟩, hnew⟩ := mem_freshUrls.mp hu
    exact mem_freshUrls.mpr ⟨⟨List.mem_cons_of_mem url hmem, ok⟩, hnew⟩
  cases h with
  | refused refusal => exact Nat.add_le_add_left kept _
  | known written => exact Nat.add_le_add_left kept _
  | added ok fresh =>
    -- The url itself is one of those that could be added, and is no longer.
    have pushed : ∀ u, u ∈ (l.push url).urls ↔ u ∈ l.urls ∨ u = url := by
      simp [Ledger.push, Ledger.urls]
    have apart : url ∉ freshUrls (l.push url) urls := fun hmem =>
      (mem_freshUrls.mp hmem).2 ((pushed url).mpr (.inr rfl))
    have all : url :: freshUrls (l.push url) urls ⊆ freshUrls l (url :: urls) := by
      refine List.cons_subset.mpr ⟨mem_freshUrls.mpr ⟨⟨List.mem_cons_self, ok⟩, fresh⟩, ?_⟩
      intro u hu
      obtain ⟨⟨hmem, ok'⟩, hnew⟩ := mem_freshUrls.mp hu
      rw [pushed, not_or] at hnew
      exact mem_freshUrls.mpr ⟨⟨List.mem_cons_of_mem url hmem, ok'⟩, hnew.1⟩
    have := fewer (List.nodup_cons.mpr ⟨apart, nodup_freshUrls _ urls⟩) all
    have grown : (l.push url).size = l.size + 1 := by simp [Ledger.size, Ledger.push]
    rw [List.length_cons] at this
    omega

/-- A refusal changes nothing. -/
theorem eq_of_error {refusal : Refusal} (h : Ending l url (.error refusal) after) : after = l := by
  cases h with
  | refused => rfl

end Ending

/-! ## The three questions -/

section

variable (reliable : Reliable store holds limit)

include reliable

/-- The second look-up finds the url, or the request is refused. -/
theorem lookUpWinner_faulty (s : InOrder holds limit state.1 l n) (url : String) :
    InOrder holds limit ((lookUpWinner url).run store.faulty state).state.1 l n ∧
      Ending l url ((lookUpWinner url).run store.faulty state).value l := by
  obtain ⟨found, after⟩ := reliable.find_faulty s url
  simp only [lookUpWinner, Program.run_ask]
  generalize store.faulty.answer (.findByUrl url) state = answered at found after
  obtain ⟨answer, later⟩ := answered
  cases answer with
  | error failure => exact ⟨after, .refused _⟩
  | ok id? =>
    cases id? with
    | none => exact ⟨after, .refused _⟩
    | some id => exact ⟨after, .known (found id rfl)⟩

/-- The insertion adds the url, or loses the race, or the request is refused. -/
theorem insertNew_faulty (s : InOrder holds limit state.1 l n) (words : n < idCount)
    (ok : checkUrl url = .ok ()) :
    ∃ after m, m + l.size = n + after.size ∧
      InOrder holds limit ((insertNew url).run store.faulty state).state.1 after m ∧
      Ending l url ((insertNew url).run store.faulty state).value after := by
  have inserted := reliable.insert_faulty s words url
  simp only [insertNew, Program.run_ask]
  generalize store.faulty.answer (.insert url) state = answered at inserted
  obtain ⟨answer, later⟩ := answered
  rcases inserted with ⟨⟨failure, rfl⟩, after⟩ | ⟨fresh, rfl, after⟩
  · dsimp only
    by_cases lost : failure.kind = .conflict
    · -- The conflict may be a false one; what the second look-up says decides.
      obtain ⟨last, ending⟩ := lookUpWinner_faulty reliable after url
      rw [if_pos lost]
      exact ⟨l, n, rfl, last, ending⟩
    · rw [if_neg lost]
      exact ⟨l, n, rfl, after, .refused _⟩
  · have grown : (l.push url).size = l.size + 1 := by simp [Ledger.size, Ledger.push]
    exact ⟨l.push url, n + 1, by omega, after, .added ok fresh⟩

/-- **A request comes to one of the endings**, whatever the layer does. -/
theorem Ending.of_make (s : InOrder holds limit state.1 l n) (words : n < idCount)
    (url : String) :
    ∃ after m, m + l.size = n + after.size ∧
      InOrder holds limit ((make url).run store.faulty state).state.1 after m ∧
      Ending l url ((make url).run store.faulty state).value after := by
  rcases checkUrl_cases url with ok | ⟨fault, bad⟩
  · obtain ⟨found, after⟩ := reliable.find_faulty s url
    simp only [make, ok, Program.run_ask]
    generalize store.faulty.answer (.findByUrl url) state = answered at found after
    obtain ⟨answer, later⟩ := answered
    cases answer with
    | error failure => exact ⟨l, n, rfl, after, .refused _⟩
    | ok id? =>
      cases id? with
      | none => exact insertNew_faulty reliable after words ok
      | some id => exact ⟨l, n, rfl, after, .known (found id rfl)⟩
  · rw [make_run_refused _ _ bad]
    exact ⟨l, n, rfl, s, .refused _⟩

/-- **Any number of requests** leave a store in order, with the links that it had and at most one
    more for each url that was new. -/
theorem Ending.of_makes (urls : List String) :
    ∀ {state : σ × FaultPlan} {l : Ledger} {n : Nat}, InOrder holds limit state.1 l n →
      (n + (freshUrls l urls).length < idCount ∨ limit < idCount) →
      ∃ after m, m + l.size = n + after.size ∧
        after.size ≤ l.size + (freshUrls l urls).length ∧ l.links <+: after.links ∧
        InOrder holds limit (Program.runAll store.faulty (urls.map make) state).1.1 after m := by
  induction urls with
  | nil =>
    intro state l n s words
    exact ⟨l, n, rfl, Nat.le_add_right _ _, List.prefix_rfl, s⟩
  | cons url urls ih =>
    intro state l n s words
    have within := s.within
    obtain ⟨next, k, hk, first, ending⟩ := Ending.of_make reliable s (by omega) url
    have fewer := ending.size_add_fresh_le urls
    obtain ⟨after, m, hm, bounded, grown, last⟩ := ih first (by omega)
    exact ⟨after, m, by omega, by omega, ending.links_prefix.trans grown, last⟩

/-- A request that no fault is left for is served if an id is. -/
theorem make_served {s : σ} {plan : FaultPlan} (now : InOrder holds limit s l n) (room : n < limit)
    (find : plan.findByUrl = []) (insert : plan.insert = []) (ok : checkUrl url = .ok ()) :
    ∃ id, ((make url).run store.faulty (s, plan)).value = .ok id := by
  obtain ⟨found, after⟩ := reliable.find url now
  have looked := store.faulty_answer_of_used_up (.findByUrl url) find s
  simp only [make, ok, Program.run_ask, looked, found]
  cases hid : l.idOf? url with
  | some id => exact ⟨id, rfl⟩
  | none =>
    have fresh : url ∉ l.urls := Ledger.idOf?_eq_none_iff.mp hid
    obtain ⟨given, -⟩ := reliable.insert ⟨after, now.coherent, now.within⟩ room fresh
    have inserted := store.faulty_answer_of_used_up (.insert url) insert
      (store.answer (.findByUrl url) s).2
    rw [given] at inserted
    simp only [insertNew, Program.run_ask, inserted]
    exact ⟨l.next, rfl⟩

end

/-! ## What a client may rely on -/

/-- **A request is all or nothing, whatever faults there are.** A reliable store is in order; a
    layer in front of it fails questions or hides urls as it is planned to. After any earlier
    requests the store is in order, with all the links that it had, and then a request for the link
    to a url

    * that is given an id has it written down: the store finds the url under that id, and under it
      the url;
    * that is refused leaves the ledger as it was, with the same next id;
    * adds at most one link, to a url that was not there, under the next id, which no link has;
    * does not ask the store at all if the url is not accepted;
    * is served if the url is accepted, no fault is left for it, and an id is left.

    There are words for the ids of all urls that are new, or fewer ids than words. -/
theorem make_is_all_or_nothing (reliable : Reliable store holds limit) {s : σ}
    (start : InOrder holds limit s l n) (plan : FaultPlan) (earlier : List String)
    (words : n + (freshUrls l earlier).length < idCount ∨ limit < idCount) (url : String) :
    let state := (Program.runAll store.faulty (earlier.map make) (s, plan)).1
    let ran := (make url).run store.faulty state
    ∃ before m after k, l.links <+: before.links ∧ InOrder holds limit state.1 before m ∧
      InOrder holds limit ran.state.1 after k ∧
      (∀ id, ran.value = .ok id →
        (store.answer (.findByUrl url) ran.state.1).1 = .ok (some id) ∧
        (store.answer (.get id) ran.state.1).1 = .ok (some ⟨id, url⟩)) ∧
      (∀ refusal, ran.value = .error refusal → after = before) ∧
      (after = before ∨ after = before.push url ∧ ran.value = .ok before.next ∧
        url ∉ before.urls ∧ ∀ link ∈ before.links, link.id ≠ before.next) ∧
      (∀ fault, checkUrl url = .error fault →
        make url = .done (.error (.invalidUrl fault.message))) ∧
      (checkUrl url = .ok () → state.2.findByUrl = [] → state.2.insert = [] → m < limit →
        ∃ id, ran.value = .ok id) := by
  intro state ran
  obtain ⟨before, m, hm, bounded, grown, now⟩ : ∃ before m, m + l.size = n + before.size ∧
      before.size ≤ l.size + (freshUrls l earlier).length ∧ l.links <+: before.links ∧
      InOrder holds limit state.1 before m :=
    Ending.of_makes reliable earlier start words
  have within := now.within
  have left : m < idCount := by omega
  obtain ⟨after, k, -, later, ending⟩ := Ending.of_make reliable now left url
  change Ending before url ran.value after at ending
  refine ⟨before, m, after, k, grown, now, later, ?_, ?_, ?_, fun fault bad => make_of_error bad,
    fun ok find insert room => make_served reliable now room find insert ok⟩
  · intro id given
    rw [given] at ending
    rw [(reliable.find url later).1, (reliable.get id later).1,
      (Ledger.idOf?_eq_some_iff later.coherent.urls_nodup).mpr ending.mem_links,
      later.coherent.get?_eq_some_iff.mpr ending.mem_links]
    exact ⟨rfl, rfl⟩
  · intro refusal given
    rw [given] at ending
    exact ending.eq_of_error
  · generalize ran.value = result at ending
    cases ending with
    | refused refusal => exact .inl rfl
    | known written => exact .inl rfl
    | added ok fresh =>
      refine .inr ⟨rfl, rfl, fresh, fun link hlink hid => ?_⟩
      -- Every id so far is below the number of the next one.
      have below := now.coherent.ids_lt link hlink
      rw [hid, now.coherent.next_eq, LinkId.toNat_ofNat left] at below
      exact Nat.lt_irrefl m below

/-- In memory, an insertion fails, the next one passes, and then a url that is there is hidden
    twice; after that another url is served. On a table whose last key is used, a url that is there
    is hidden; the insertion is refused for want of a key, and the table keeps what it kept. -/
theorem make_is_all_or_nothing_after_three_faults :
    let plan : FaultPlan :=
      ⟨[.pass, .pass, .miss, .miss], [.fail ⟨.timeout, "too slow"⟩, .pass, .pass], []⟩
    let earlier := ["http://a.b/", "http://a.b/", "http://a.b/"]
    let state := (Program.runAll Indexes.store.faulty (earlier.map make) (.empty, plan)).1
    let ran := (make "http://c.d/").run Indexes.store.faulty state
    let table : Pool := ⟨⟨some ⟨[⟨maxKey, .ofUrl "http://a.b/"⟩], maxKey⟩⟩, .ready⟩
    let full := (make "http://a.b/").run Pool.store.faulty (table, ⟨[.miss], [], []⟩)
    (∃ id, ran.value = .ok id ∧
      (Indexes.store.answer (.get id) ran.state.1).1 = .ok (some ⟨id, "http://c.d/"⟩)) ∧
    full.value = .error (.store SqlError.full.failure) ∧
      ∃ kept : Ledger, table.Keeps kept ∧ full.state.1.Keeps kept := by
  intro plan earlier state ran table full
  constructor
  · have fresh : freshUrls .empty earlier = ["http://a.b/"] := by decide +kernel
    have words : 1 + (freshUrls .empty earlier).length < idCount := by
      rw [fresh]
      decide
    have start : InOrder Indexes.Holds idCount .empty .empty 1 :=
      ⟨Indexes.holds_empty, Ledger.coherent_empty, by decide⟩
    obtain ⟨before, m, after, k, -, now, -, given, -, -, -, served⟩ :=
      make_is_all_or_nothing Indexes.reliable start plan earlier (.inl words) "http://c.d/"
    have usedUp : state.2 = .none := by decide +kernel
    have room : m < idCount := by
      refine Nat.lt_of_le_of_ne now.within ?_
      rintro rfl
      have next := now.coherent.next_eq
      rw [← now.holds_now.next_eq] at next
      exact absurd next (by decide +kernel)
    obtain ⟨id, value⟩ := served (by decide +kernel) (congrArg FaultPlan.findByUrl usedUp)
      (congrArg FaultPlan.insert usedUp) room
    exact ⟨id, value, (given id value).2⟩
  · let kept : Ledger := ⟨[⟨.ofNat maxKey, "http://a.b/"⟩], .ofNat (maxKey + 1)⟩
    have start : InOrder Pool.Keeps (maxKey + 1) table kept (maxKey + 1) := by
      refine ⟨⟨_, rfl, by decide, rfl, Nat.le_refl _⟩, ⟨rfl, ?_, ?_, ?_, ?_⟩, Nat.le_refl _⟩
      · decide
      · decide
      · decide
      · decide
    obtain ⟨before, m, after, k, -, now, later, -, refused, -⟩ :=
      make_is_all_or_nothing Pool.reliable start ⟨[.miss], [], []⟩ [] (.inr (by decide))
        "http://a.b/"
    have value : full.value = .error (.store SqlError.full.failure) := by decide +kernel
    exact ⟨value, before, now.holds_now, refused _ value ▸ later.holds_now⟩

end LinkLedger.Desk
