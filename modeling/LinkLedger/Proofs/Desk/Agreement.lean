import Mathlib.Data.List.Perm.Subperm
import LinkLedger.Proofs.Desk.Runs
import LinkLedger.Proofs.Store.Rows

/-!
# Requests at a time agree

Any number of requests for links share a healthy store and take turns as a schedule says. Each looks
its url up, may insert it, may lose the race for it, and then looks it up again.

`Stage l url p` ties the point that a request for `url` has come to, which is its remaining program
`p`, to the ledger `l`: a request that has lost the race knows that its url is written down, so the
second look-up finds it, and a request that is about to answer knows that its answer is written
down. One step of anybody's keeps everybody at a stage (`Stage.mono`, `Stage.advance`), so a whole
schedule does (`Gathered.run`).

**`concurrent_makes_agree`: however requests interleave, equal urls get equal ids, different urls
get different ones, nobody fails, and the new ids are the next ones.**
-/

set_option autoImplicit false

namespace LinkLedger.Desk

variable {σ : Type} {store : Store σ} {holds : σ → Ledger → Prop} {limit : Nat}

/-! ## How far a request has come -/

/-- The point that a request for a url has come to, and what it may rely on there. -/
inductive Stage (l : Ledger) (url : String) : Program (Except Refusal LinkId) → Prop
  /-- The url is not accepted, and that is the answer. -/
  | refused {fault : UrlFault} (bad : checkUrl url = .error fault) :
    Stage l url (.done (.error (.invalidUrl fault.message)))
  /-- It is about to look the url up. -/
  | beginning (ok : checkUrl url = .ok ()) : Stage l url (make url)
  /-- The url was not there; it may be by now. -/
  | inserting (ok : checkUrl url = .ok ()) : Stage l url (insertNew url)
  /-- Somebody else was first. -/
  | beaten (ok : checkUrl url = .ok ()) (written : url ∈ l.urls) :
    Stage l url (.report (.raceLost url) (lookUpWinner url))
  | following (ok : checkUrl url = .ok ()) (written : url ∈ l.urls) :
    Stage l url (lookUpWinner url)
  /-- The answer is known and still to be reported. -/
  | telling {event : Event} {id : LinkId} (ok : checkUrl url = .ok ())
    (leads : ⟨id, url⟩ ∈ l.links) : Stage l url (.report event (.done (.ok id)))
  | served {id : LinkId} (ok : checkUrl url = .ok ()) (leads : ⟨id, url⟩ ∈ l.links) :
    Stage l url (.done (.ok id))

namespace Stage

variable {l : Ledger} {url : String} {p : Program (Except Refusal LinkId)}

/-- A request begins at a stage. -/
theorem make (l : Ledger) (url : String) : Stage l url (make url) := by
  rcases checkUrl_cases url with ok | ⟨fault, bad⟩
  · exact .beginning ok
  · rw [make_of_error bad]
    exact .refused bad

/-- What others add to the ledger leaves a request where it is. -/
theorem mono (h : Stage l url p) {l' : Ledger} (grown : l.links <+: l'.links) :
    Stage l' url p := by
  have still : url ∈ l.urls → url ∈ l'.urls := by
    intro written
    obtain ⟨id, leads⟩ := Ledger.mem_urls.mp written
    exact Ledger.mem_urls.mpr ⟨id, grown.subset leads⟩
  cases h with
  | refused bad => exact .refused bad
  | beginning ok => exact .beginning ok
  | inserting ok => exact .inserting ok
  | beaten ok written => exact .beaten ok (still written)
  | following ok written => exact .following ok (still written)
  | telling ok leads => exact .telling ok (grown.subset leads)
  | served ok leads => exact .served ok (grown.subset leads)

/-- A request that is done was refused, or its answer is written down. -/
theorem of_done {result : Except Refusal LinkId} (h : Stage l url (.done result)) :
    (∃ fault, checkUrl url = .error fault ∧ result = .error (.invalidUrl fault.message)) ∨
      ∃ id, checkUrl url = .ok () ∧ result = .ok id ∧ ⟨id, url⟩ ∈ l.links := by
  generalize hp : Program.done result = p at h
  cases h with
  | refused bad =>
    cases hp
    exact .inl ⟨_, bad, rfl⟩
  | served ok leads =>
    cases hp
    exact .inr ⟨_, ok, rfl, leads⟩
  | beginning ok => simp [Desk.make, ok] at hp
  | inserting ok => simp [insertNew] at hp
  | following ok written => simp [lookUpWinner] at hp
  | beaten ok written => cases hp
  | telling ok leads => cases hp

/-- **One step of a request**: it comes to another stage, and either the ledger is the same, or the
    url was accepted and new and has been added. -/
theorem advance (healthy : Healthy store holds limit) {s : σ} {n : Nat} (hs : holds s l)
    (hl : l.Coherent n) (h : Stage l url p)
    (room : checkUrl url = .ok () → url ∉ l.urls → n < limit) :
    (holds (p.advance store s).state l ∧ Stage l url (p.advance store s).program) ∨
      (checkUrl url = .ok () ∧ url ∉ l.urls ∧ holds (p.advance store s).state (l.push url) ∧
        Stage (l.push url) url (p.advance store s).program) := by
  cases h with
  | refused bad => exact .inl ⟨hs, .refused bad⟩
  | served ok leads => exact .inl ⟨hs, .served ok leads⟩
  | telling ok leads => exact .inl ⟨hs, .served ok leads⟩
  | beaten ok written => exact .inl ⟨hs, .following ok written⟩
  | beginning ok =>
    obtain ⟨answer, after⟩ := healthy.find url hs hl
    left
    simp only [Desk.make, ok, Program.advance, answer]
    refine ⟨after, ?_⟩
    cases found : l.idOf? url with
    | none => exact .inserting ok
    | some id => exact .telling ok (Ledger.mem_of_idOf?_eq_some found)
  | following ok written =>
    obtain ⟨answer, after⟩ := healthy.find url hs hl
    left
    simp only [lookUpWinner, Program.advance, answer]
    refine ⟨after, ?_⟩
    -- The url is written down, so the second look-up cannot miss.
    cases found : l.idOf? url with
    | none => exact absurd written (Ledger.idOf?_eq_none_iff.mp found)
    | some id => exact .served ok (Ledger.mem_of_idOf?_eq_some found)
  | inserting ok =>
    by_cases written : url ∈ l.urls
    · obtain ⟨answer, after⟩ := healthy.conflict hs hl written
      left
      simp only [insertNew, Program.advance, answer, if_true]
      exact ⟨after, .beaten ok written⟩
    · obtain ⟨answer, after⟩ := healthy.insert hs hl written (room ok written)
      right
      simp only [insertNew, Program.advance, answer]
      refine ⟨ok, written, after, .telling ok ?_⟩
      simp [Ledger.push]

end Stage

/-! ## What requests can add -/

/-- The urls that requests add to a ledger: the accepted ones that are not there, each once. -/
def freshUrls (l : Ledger) (urls : List String) : List String :=
  (distinctUrls urls).filter fun url => url ∉ l.urls

theorem mem_freshUrls {l : Ledger} {urls : List String} {url : String} :
    url ∈ freshUrls l urls ↔ (url ∈ urls ∧ checkUrl url = .ok ()) ∧ url ∉ l.urls := by
  simp [freshUrls, mem_distinctUrls]

theorem nodup_freshUrls (l : Ledger) (urls : List String) : (freshUrls l urls).Nodup :=
  (nodup_distinctUrls urls).filter _

/-! ## Everybody's stages -/

/-- Requests for `urls` that began when the store held `l`. Since then `added` has been added, in
    this order, and everybody is at a stage. -/
structure Gathered (holds : σ → Ledger → Prop) (l : Ledger) (urls added : List String)
    (c : Crowd (Except Refusal LinkId) σ) : Prop where
  nodup : added.Nodup
  fresh : added ⊆ freshUrls l urls
  holds_now : holds c.state (l.pushAll added)
  length_eq : c.members.length = urls.length
  stage : ∀ {i : Nat} {url p}, urls[i]? = some url → c.members[i]? = some p →
    Stage (l.pushAll added) url p

namespace Gathered

variable {l : Ledger} {n : Nat} {urls added : List String} {c : Crowd (Except Refusal LinkId) σ}

theorem start {s : σ} (hs : holds s l) (urls : List String) :
    Gathered holds l urls [] (.gather (urls.map make) s) where
  nodup := List.nodup_nil
  fresh := List.nil_subset _
  holds_now := hs
  length_eq := List.length_map _
  stage {i url p} hurl hp := by
    have hmake : some (make url) = some p := by
      rw [← hp, Crowd.gather, List.getElem?_map, hurl, Option.map_some]
    cases hmake
    exact .make l url

theorem coherent (h : Gathered holds l urls added c) (hl : l.Coherent n)
    (room : n + (freshUrls l urls).length ≤ idCount) :
    (l.pushAll added).Coherent (n + added.length) := by
  have hle : added.length ≤ (freshUrls l urls).length :=
    (List.subperm_of_subset h.nodup h.fresh).length_le
  exact hl.pushAll h.nodup (fun url hurl => (mem_freshUrls.mp (h.fresh hurl)).2) (by omega)

/-- A url that is still to be added finds room: what was added before it is not all there is. -/
theorem length_lt (h : Gathered holds l urls added c) {url : String} (hurl : url ∈ urls)
    (ok : checkUrl url = .ok ()) (hnew : url ∉ (l.pushAll added).urls) :
    added.length < (freshUrls l urls).length := by
  rw [Ledger.urls_pushAll, List.mem_append, not_or] at hnew
  obtain ⟨hold, hadded⟩ := hnew
  have hsub : url :: added ⊆ freshUrls l urls :=
    List.cons_subset.mpr ⟨mem_freshUrls.mpr ⟨⟨hurl, ok⟩, hold⟩, h.fresh⟩
  exact (List.subperm_of_subset (List.nodup_cons.mpr ⟨hadded, h.nodup⟩) hsub).length_le

/-- Everybody keeps a stage when the ledger grows and one of them comes to another. -/
theorem stage_turn (h : Gathered holds l urls added c) {more : List String} {i : Nat}
    {url : String} {p : Program (Except Refusal LinkId)} (hurl : urls[i]? = some url)
    (hp : c.members[i]? = some p)
    (next : Stage (l.pushAll more) url (p.advance store c.state).program)
    (grown : (l.pushAll added).links <+: (l.pushAll more).links) {j : Nat} {url' : String}
    {p' : Program (Except Refusal LinkId)} (hurl' : urls[j]? = some url')
    (hp' : (c.turn store i).members[j]? = some p') : Stage (l.pushAll more) url' p' := by
  rw [Crowd.getElem?_members_turn] at hp'
  by_cases hij : i = j
  · subst hij
    rw [if_pos rfl, hp, Option.map_some, Option.some_inj] at hp'
    rw [hurl, Option.some_inj] at hurl'
    subst hp' hurl'
    exact next
  · rw [if_neg hij] at hp'
    exact (h.stage hurl' hp').mono grown

/-- **Anybody's turn keeps everybody at a stage**, and adds at most one url. -/
theorem turn (healthy : Healthy store holds limit) (hl : l.Coherent n)
    (room : n + (freshUrls l urls).length ≤ limit) (h : Gathered holds l urls added c) (i : Nat) :
    ∃ more, Gathered holds l urls (added ++ more) (c.turn store i) := by
  have fits : n + (freshUrls l urls).length ≤ idCount := Nat.le_trans room healthy.limit_le
  cases hp : c.members[i]? with
  | none =>
    refine ⟨[], ?_⟩
    rw [List.append_nil, Crowd.turn_of_none hp]
    exact h
  | some p =>
    have hi : i < urls.length := h.length_eq ▸ (List.getElem?_eq_some_iff.mp hp).1
    have hurl : urls[i]? = some urls[i] := List.getElem?_eq_getElem hi
    have hmem : urls[i] ∈ urls := List.getElem_mem hi
    have hlength : (c.turn store i).members.length = urls.length := by
      rw [Crowd.length_turn, h.length_eq]
    have hstate : (c.turn store i).state = (p.advance store c.state).state := by
      rw [Crowd.turn_of_some hp]
    have roomy : checkUrl urls[i] = .ok () → urls[i] ∉ (l.pushAll added).urls →
        n + added.length < limit := by
      intro ok hnew
      have := h.length_lt hmem ok hnew
      omega
    rcases (h.stage hurl hp).advance healthy h.holds_now (h.coherent hl fits) roomy with
      ⟨after, next⟩ | ⟨ok, hnew, after, next⟩
    · -- Nothing was added: the others stay where they are in the same ledger.
      refine ⟨[], ?_⟩
      rw [List.append_nil]
      exact ⟨h.nodup, h.fresh, hstate ▸ after, hlength,
        h.stage_turn hurl hp next List.prefix_rfl⟩
    · -- The url was added, so it is one more of those that could be.
      refine ⟨[urls[i]], ?_⟩
      rw [← Ledger.pushAll_concat] at after next
      rw [Ledger.urls_pushAll, List.mem_append, not_or] at hnew
      refine ⟨?_, ?_, hstate ▸ after, hlength, h.stage_turn hurl hp next ?_⟩
      · simpa using h.nodup.concat hnew.2
      · rw [List.append_subset]
        exact ⟨h.fresh, by simpa using mem_freshUrls.mpr ⟨⟨hmem, ok⟩, hnew.1⟩⟩
      · rw [Ledger.pushAll_concat]
        exact List.prefix_append _ _

/-- Turns in any order keep everybody at a stage. -/
theorem run (healthy : Healthy store holds limit) (hl : l.Coherent n)
    (room : n + (freshUrls l urls).length ≤ limit) (schedule : List Nat) :
    ∀ {added c}, Gathered holds l urls added c →
      ∃ more, Gathered holds l urls (added ++ more) (c.run store schedule) := by
  induction schedule with
  | nil =>
    intro added c h
    exact ⟨[], by rwa [List.append_nil]⟩
  | cons i schedule ih =>
    intro added c h
    obtain ⟨first, hturn⟩ := h.turn healthy hl room i
    obtain ⟨rest, hrun⟩ := ih hturn
    exact ⟨first ++ rest, by rwa [← List.append_assoc, Crowd.run_cons]⟩

end Gathered

/-! ## What everybody is told -/

/-- In a healthy store an id leads to the url that is written under it. -/
theorem resolve_value_of_mem (healthy : Healthy store holds limit) {s : σ} {l : Ledger} {n : Nat}
    (hs : holds s l) (hl : l.Coherent n) {id : LinkId} {url : String}
    (leads : ⟨id, url⟩ ∈ l.links) : ((resolve id).run store s).value = .ok url := by
  simp [resolve, (healthy.get id hs hl).1, hl.get?_eq_some_iff.mpr leads]

/-- A request takes at most five steps: it looks up, inserts, reports the lost race, looks up again,
    and reports that the winner is missing. -/
theorem make_within (url : String) : (make url).Within 5 := by
  rcases checkUrl_cases url with ok | ⟨fault, bad⟩
  · simp only [make, ok]
    rintro (failure | _ | id)
    · exact trivial
    · rintro (failure | id)
      · show Program.Within 3 (if failure.kind = .conflict then _ else _)
        split
        · rintro (failure | _ | id) <;> exact trivial
        · exact trivial
      · exact trivial
    · exact trivial
  · rw [make_of_error bad]
    exact trivial

namespace Gathered

variable {l : Ledger} {n : Nat} {urls added : List String} {c : Crowd (Except Refusal LinkId) σ}

/-- Whoever got an id has it written down with the url that was sent. -/
theorem mem_links (h : Gathered holds l urls added c) {i : Nat} {url : String} {id : LinkId}
    (hurl : urls[i]? = some url) (hdone : c.members[i]? = some (.done (.ok id))) :
    ⟨id, url⟩ ∈ (l.pushAll added).links := by
  rcases (h.stage hurl hdone).of_done with ⟨fault, -, heq⟩ | ⟨id', -, heq, leads⟩
  · cases heq
  · cases heq
    exact leads

/-- When everybody is done, all that could be added has been added. -/
theorem perm_of_done (h : Gathered holds l urls added c)
    (done : ∀ i < urls.length, ∃ result, c.members[i]? = some (.done result)) :
    added.Perm (freshUrls l urls) := by
  refine (List.perm_ext_iff_of_nodup h.nodup (nodup_freshUrls l urls)).mpr fun url =>
    ⟨fun hadded => h.fresh hadded, fun hfresh => ?_⟩
  obtain ⟨⟨hmem, ok⟩, hnew⟩ := mem_freshUrls.mp hfresh
  obtain ⟨i, hi, rfl⟩ := List.mem_iff_getElem.mp hmem
  obtain ⟨result, hdone⟩ := done i hi
  rcases (h.stage (List.getElem?_eq_getElem hi) hdone).of_done with
    ⟨fault, bad, -⟩ | ⟨id, -, -, leads⟩
  · rw [ok] at bad
    cases bad
  · have written : urls[i] ∈ (l.pushAll added).urls := Ledger.mem_urls.mpr ⟨id, leads⟩
    rw [Ledger.urls_pushAll, List.mem_append] at written
    exact written.resolve_left hnew

end Gathered

/-- **Requests at a time agree.** A healthy store holds a coherent ledger whose next id is `n`;
    requests for `urls` share it and take turns in any order, as long as there are ids for all the
    urls that are new. Then at every moment

    * whoever is done was refused for the fault of the url, or got an id, and that id leads to the
      url that was sent;
    * two ids are equal just if the urls they were given for are.

    After five turns each everybody is done. When everybody is done, the store holds the ledger with
    the new urls, each once, under the ids from `n` on. -/
theorem concurrent_makes_agree (healthy : Healthy store holds limit) {s : σ} {l : Ledger} {n : Nat}
    (start : holds s l) (coherent : l.Coherent n) (urls : List String)
    (room : n + (freshUrls l urls).length ≤ limit) (schedule : List Nat) :
    let c := (Crowd.gather (urls.map make) s).run store schedule
    (∀ (i : Nat) (url : String) (result : Except Refusal LinkId), urls[i]? = some url →
      c.members[i]? = some (.done result) →
      (∀ fault, checkUrl url = .error fault → result = .error (.invalidUrl fault.message)) ∧
      (checkUrl url = .ok () →
        ∃ id, result = .ok id ∧ ((resolve id).run store c.state).value = .ok url)) ∧
    (∀ (i j : Nat) (u v : String) (a b : LinkId), urls[i]? = some u → urls[j]? = some v →
      c.members[i]? = some (.done (.ok a)) → c.members[j]? = some (.done (.ok b)) →
      (a = b ↔ u = v)) ∧
    ((∀ i < urls.length, 5 ≤ schedule.count i) →
      ∀ i < urls.length, ∃ result, c.members[i]? = some (.done result)) ∧
    ((∀ i < urls.length, ∃ result, c.members[i]? = some (.done result)) →
      ∃ added : List String, added.Perm (freshUrls l urls) ∧
        holds c.state ⟨l.links ++ added.mapIdx fun i url => ⟨.ofNat (n + i), url⟩,
          .ofNat (n + added.length)⟩) := by
  intro c
  obtain ⟨added, h⟩ : ∃ added, Gathered holds l urls added c :=
    (Gathered.start start urls).run healthy coherent room schedule
  have hl : (l.pushAll added).Coherent (n + added.length) :=
    h.coherent coherent (Nat.le_trans room healthy.limit_le)
  refine ⟨?_, ?_, ?_, ?_⟩
  · intro i url result hurl hdone
    rcases (h.stage hurl hdone).of_done with ⟨fault, bad, rfl⟩ | ⟨id, ok, rfl, leads⟩
    · refine ⟨fun fault' bad' => ?_, fun ok => ?_⟩
      · rw [bad] at bad'
        cases bad'
        rfl
      · rw [bad] at ok
        cases ok
    · refine ⟨fun fault bad => ?_, fun _ =>
        ⟨id, rfl, resolve_value_of_mem healthy h.holds_now hl leads⟩⟩
      rw [ok] at bad
      cases bad
  · intro i j u v a b hu hv ha hb
    have hleads := h.mem_links hu ha
    have hleads' := h.mem_links hv hb
    constructor
    · rintro rfl
      exact hl.url_unique hleads hleads'
    · rintro rfl
      exact hl.id_unique hleads hleads'
  · intro turns i hi
    have hbegin : (Crowd.gather (urls.map make) s).members[i]? = some (make urls[i]) := by
      rw [Crowd.gather, List.getElem?_map, List.getElem?_eq_getElem hi, Option.map_some]
    obtain ⟨q, hq, hdone⟩ :=
      Crowd.isSome_value?_of_turns store schedule hbegin (make_within _) (turns i hi)
    cases q with
    | done result => exact ⟨result, hq⟩
    | report event next => cases hdone
    | ask call next => cases hdone
  · intro done
    refine ⟨added, h.perm_of_done done, ?_⟩
    rw [← Ledger.links_pushAll coherent.next_eq, ← Ledger.next_pushAll coherent.next_eq]
    exact h.holds_now

/-- Four requests at a time to new indexes, and to a new table. All look up first; then the first
    and the third race for the same url. -/
theorem concurrent_makes_agree_from_empty :
    let urls := ["http://a.b/", "http://c.d/", "http://a.b/", "a.b"]
    let schedule := (List.replicate 5 [0, 1, 2, 3]).flatten
    (∃ added : List String, added.Perm ["http://a.b/", "http://c.d/"] ∧
      ((Crowd.gather (urls.map make) Indexes.empty).run Indexes.store schedule).state.Holds
        ⟨added.mapIdx fun i url => ⟨.ofNat (1 + i), url⟩, .ofNat (1 + added.length)⟩) ∧
    (∃ added : List String, added.Perm ["http://a.b/", "http://c.d/"] ∧
      ((Crowd.gather (urls.map make) Pool.fresh).run Pool.store schedule).state.Holds
        ⟨added.mapIdx fun i url => ⟨.ofNat (1 + i), url⟩, .ofNat (1 + added.length)⟩) := by
  intro urls schedule
  have fresh : freshUrls .empty urls = ["http://a.b/", "http://c.d/"] := by decide +kernel
  have turns : ∀ i < urls.length, 5 ≤ schedule.count i := by decide
  have memory := concurrent_makes_agree Indexes.healthy Indexes.holds_empty Ledger.coherent_empty
    urls (by rw [fresh]; decide) schedule
  have table := concurrent_makes_agree Pool.healthy Pool.holds_fresh Ledger.coherent_empty
    urls (by rw [fresh]; decide) schedule
  rw [fresh] at memory table
  exact ⟨memory.2.2.2 (memory.2.2.1 turns), table.2.2.2 (table.2.2.1 turns)⟩

end LinkLedger.Desk
