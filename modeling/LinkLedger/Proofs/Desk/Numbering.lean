import Mathlib.Data.List.Basic
import LinkLedger.Proofs.Desk.Runs
import LinkLedger.Proofs.Sessions

/-!
# Links are numbered in the order of their urls

`keptUrls errands` is the list of the distinct accepted urls that were sent so far, in order of
first appearance. It tells everything that a desk with a new store in memory ever answers: a url has
its position in the list as its id, counted from one, and an id leads to the url at its position
(`Errand.answer`).

The invariant is that the store holds the empty ledger with exactly these urls added
(`Errand.run_eq` for one errand, `ledger_eq` for a whole run). **`answers_by_position` is the
specification of whole runs**, of any length.
-/

set_option autoImplicit false

namespace LinkLedger.Desk

/-! ## The ledger of a list of urls -/

/-- The url at the position of an id, counted from one. -/
def urlAt? (urls : List String) (id : LinkId) : Option String :=
  match id.word.toNat with
  | 0 => none
  | i + 1 => urls[i]?

theorem urlAt?_eq_some_iff {urls : List String} {id : LinkId} {url : String} :
    urlAt? urls id = some url ↔ ∃ i, id.word.toNat = i + 1 ∧ urls[i]? = some url := by
  unfold urlAt?
  cases id.word.toNat with
  | zero => simp
  | succ i => simp

section

variable {urls : List String}

theorem mem_links_pushAll {id : LinkId} {url : String} :
    ⟨id, url⟩ ∈ (Ledger.empty.pushAll urls).links ↔
      ∃ i, .ofNat (i + 1) = id ∧ urls[i]? = some url := by
  have hnext : Ledger.empty.next = .ofNat 1 := rfl
  rw [Ledger.links_pushAll hnext]
  simp only [Ledger.empty, List.nil_append, List.mem_mapIdx, Link.mk.injEq, Nat.add_comm 1]
  constructor
  · rintro ⟨i, hi, hid, rfl⟩
    exact ⟨i, hid, List.getElem?_eq_getElem hi⟩
  · rintro ⟨i, hid, hurl⟩
    obtain ⟨hi, rfl⟩ := List.getElem?_eq_some_iff.mp hurl
    exact ⟨i, hi, hid, rfl⟩

variable (distinct : urls.Nodup) (few : urls.length < idCount)

include distinct few

theorem coherent_pushAll : (Ledger.empty.pushAll urls).Coherent (1 + urls.length) :=
  Ledger.coherent_empty.pushAll distinct (fun _ _ hmem => by cases hmem) (by omega)

/-- The id of a url is its position. -/
theorem idOf?_pushAll {url : String} (hmem : url ∈ urls) :
    (Ledger.empty.pushAll urls).idOf? url = some (.ofNat (urls.idxOf url + 1)) := by
  rw [Ledger.idOf?_eq_some_iff (coherent_pushAll distinct few).urls_nodup, mem_links_pushAll]
  exact ⟨urls.idxOf url, rfl, List.getElem?_idxOf hmem⟩

/-- The url of an id is the one at its position. -/
theorem get?_pushAll (id : LinkId) :
    (Ledger.empty.pushAll urls).get? id = (urlAt? urls id).map fun url => ⟨id, url⟩ := by
  have coherent := coherent_pushAll distinct few
  -- Positions stay below the number of ids, so a position and its id tell each other.
  have position : ∀ {i : Nat} {url : String}, urls[i]? = some url →
      (LinkId.ofNat (i + 1)).word.toNat = i + 1 := by
    intro i url hurl
    obtain ⟨hi, -⟩ := List.getElem?_eq_some_iff.mp hurl
    exact LinkId.toNat_ofNat (by omega)
  cases hat : urlAt? urls id with
  | some url =>
    obtain ⟨i, hid, hurl⟩ := urlAt?_eq_some_iff.mp hat
    refine coherent.get?_eq_some_iff.mpr (mem_links_pushAll.mpr ⟨i, ?_, hurl⟩)
    rw [← hid, LinkId.ofNat_toNat]
  | none =>
    apply Ledger.get?_eq_none_iff.mpr
    rintro ⟨id', url⟩ hmem rfl
    obtain ⟨i, rfl, hurl⟩ := mem_links_pushAll.mp hmem
    rw [urlAt?_eq_some_iff.mpr ⟨i, position hurl, hurl⟩] at hat
    cases hat

end

/-! ## Errands and their answers -/

/-- What is asked of the desk. -/
inductive Errand where
  | make (url : String)
  | resolve (id : LinkId)

namespace Errand

def operation : Errand → Operation
  | make url => .make url
  | resolve id => .resolve id

def url? : Errand → Option String
  | make url => some url
  | resolve _ => none

/-- What an errand is answered with once these urls are kept. -/
def answer (urls : List String) : Errand → Outcome
  | make url =>
    .made <| match checkUrl url with
      | .error fault => .error (.invalidUrl fault.message)
      | .ok () => .ok (.ofNat (urls.idxOf url + 1))
  | resolve id =>
    .resolved <| match urlAt? urls id with
      | some url => .ok url
      | none => .error (.notFound id)

end Errand

/-- The distinct accepted urls that errands send, in order of first appearance. -/
def keptUrls (errands : List Errand) : List String := distinctUrls (errands.filterMap Errand.url?)

theorem mem_keptUrls {errands : List Errand} {url : String} :
    url ∈ keptUrls errands ↔ .make url ∈ errands ∧ checkUrl url = .ok () := by
  rw [keptUrls, mem_distinctUrls, List.mem_filterMap]
  refine and_congr_left fun _ => ⟨?_, fun hmem => ⟨_, hmem, rfl⟩⟩
  rintro ⟨errand, hmem, hurl⟩
  cases errand with
  | make url' =>
    cases hurl
    exact hmem
  | resolve id => cases hurl

theorem nodup_keptUrls (errands : List Errand) : (keptUrls errands).Nodup := nodup_distinctUrls _

@[simp] theorem keptUrls_concat_resolve (errands : List Errand) (id : LinkId) :
    keptUrls (errands ++ [.resolve id]) = keptUrls errands := by
  simp [keptUrls, List.filterMap_cons, Errand.url?]

theorem sentUrls_concat_make (errands : List Errand) (url : String) :
    (errands ++ [Errand.make url]).filterMap Errand.url? =
      errands.filterMap Errand.url? ++ [url] := by
  simp [Errand.url?]

theorem keptUrls_concat_make_of_old {errands : List Errand} {url : String}
    (h : checkUrl url ≠ .ok () ∨ url ∈ keptUrls errands) :
    keptUrls (errands ++ [.make url]) = keptUrls errands := by
  rw [keptUrls, sentUrls_concat_make]
  exact distinctUrls_concat_of_old h

theorem keptUrls_concat_make_of_new {errands : List Errand} {url : String}
    (ok : checkUrl url = .ok ()) (hnew : url ∉ keptUrls errands) :
    keptUrls (errands ++ [.make url]) = keptUrls errands ++ [url] := by
  rw [keptUrls, sentUrls_concat_make]
  exact distinctUrls_concat_of_new ok hnew

/-- Urls are kept for good, at their places. -/
theorem prefix_keptUrls {before errands : List Errand} (h : before <+: errands) :
    keptUrls before <+: keptUrls errands := by
  obtain ⟨after, rfl⟩ := h
  induction after using List.reverseRecOn with
  | nil => simp
  | append_singleton after errand ih =>
    apply ih.trans
    rw [← List.append_assoc]
    cases errand with
    | resolve id => simp only [keptUrls_concat_resolve, List.prefix_rfl]
    | make url =>
      by_cases hold : checkUrl url ≠ .ok () ∨ url ∈ keptUrls (before ++ after)
      · simp only [keptUrls_concat_make_of_old hold, List.prefix_rfl]
      · rw [not_or, not_not] at hold
        rw [keptUrls_concat_make_of_new hold.1 hold.2]
        exact List.prefix_append _ _

/-- Part of the errands keep no more urls. -/
theorem length_keptUrls_lt {before errands : List Errand} (h : before <+: errands)
    (few : (keptUrls errands).length < idCount) : (keptUrls before).length < idCount :=
  Nat.lt_of_le_of_lt (prefix_keptUrls h).length_le few

/-! ## One errand, and many -/

/-- **One errand**: where the urls kept so far are written down, it gets its answer, and afterwards
    the urls kept by then are written down. -/
theorem Errand.run_eq (base : Gateway.Base) (before : List Errand) (errand : Errand)
    (few : (keptUrls (before ++ [errand])).length < idCount) :
    ((errand.operation.program base).run Ledger.store
        (Ledger.empty.pushAll (keptUrls before))).value =
        errand.answer (keptUrls (before ++ [errand])) ∧
      ((errand.operation.program base).run Ledger.store
        (Ledger.empty.pushAll (keptUrls before))).state =
        Ledger.empty.pushAll (keptUrls (before ++ [errand])) := by
  cases errand with
  | resolve id =>
    rw [keptUrls_concat_resolve] at few ⊢
    have hget := get?_pushAll (nodup_keptUrls before) few id
    cases hat : urlAt? (keptUrls before) id with
    | none =>
      rw [hat] at hget
      simp [operation, Operation.program, Program.run_bind, resolve_run_of_none hget, answer, hat]
    | some url =>
      rw [hat] at hget
      simp [operation, Operation.program, Program.run_bind, resolve_run_of_some hget, answer, hat]
  | make url =>
    rcases checkUrl_cases url with ok | ⟨fault, bad⟩
    · by_cases hmem : url ∈ keptUrls before
      · rw [keptUrls_concat_make_of_old (.inr hmem)] at few ⊢
        have hid := idOf?_pushAll (nodup_keptUrls before) few hmem
        simp [operation, Operation.program, Program.run_bind, make_run_of_mem ok hid, answer, ok]
      · have hnew : url ∉ (Ledger.empty.pushAll (keptUrls before)).urls := by
          rw [Ledger.urls_pushAll]
          exact hmem
        have hnext : (Ledger.empty.pushAll (keptUrls before)).next =
            .ofNat ((keptUrls before).length + 1) := by
          rw [Ledger.next_pushAll (l := .empty) (n := 1) rfl, Nat.add_comm]
        rw [keptUrls_concat_make_of_new ok hmem, Ledger.pushAll_concat]
        simp [operation, Operation.program, Program.run_bind, make_run_of_not_mem ok hnew, answer,
          ok, hnext, List.idxOf_append_of_notMem hmem]
    · have hold : checkUrl url ≠ .ok () := by simp [bad]
      rw [keptUrls_concat_make_of_old (.inl hold)]
      simp [operation, Operation.program, Program.run_bind, make_run_refused _ _ bad, answer, bad]

/-- **Many errands**: the urls kept are written down. -/
theorem ledger_eq (base : Gateway.Base) (errands : List Errand)
    (few : (keptUrls errands).length < idCount) :
    (Session.onLedger base (errands.map Errand.operation)).1 =
      Ledger.empty.pushAll (keptUrls errands) := by
  induction errands using List.reverseRecOn with
  | nil => rfl
  | append_singleton before errand ih =>
    have fewer := length_keptUrls_lt (List.prefix_append before [errand]) few
    rw [List.map_append, Session.onLedger_append, ih fewer]
    exact (errand.run_eq base before few).2

/-! ## Whole runs -/

/-- A kept url stays at its position. -/
theorem urlAt?_idxOf {before errands : List Errand} (h : before <+: errands)
    (few : (keptUrls errands).length < idCount) {url : String} (hmem : url ∈ keptUrls before) :
    urlAt? (keptUrls errands) (.ofNat ((keptUrls before).idxOf url + 1)) = some url := by
  have hlater : url ∈ keptUrls errands := (prefix_keptUrls h).subset hmem
  have hlt := List.idxOf_lt_length_of_mem hlater
  rw [(prefix_keptUrls h).idxOf_eq_of_mem hmem]
  exact urlAt?_eq_some_iff.mpr
    ⟨_, LinkId.toNat_ofNat (by omega), List.getElem?_idxOf hlater⟩

namespace Errand

theorem answer_make_eq_ok {urls : List String} {url : String} {id : LinkId} :
    (make url).answer urls = .made (.ok id) ↔
      checkUrl url = .ok () ∧ .ofNat (urls.idxOf url + 1) = id := by
  rcases checkUrl_cases url with ok | ⟨fault, bad⟩
  · simp [answer, ok]
  · simp [answer, bad]

theorem answer_resolve_of_some {urls : List String} {id : LinkId} {url : String}
    (h : urlAt? urls id = some url) : (resolve id).answer urls = .resolved (.ok url) := by
  simp [answer, h]

theorem answer_resolve_of_none {urls : List String} {id : LinkId} (h : urlAt? urls id = none) :
    (resolve id).answer urls = .resolved (.error (.notFound id)) := by
  simp [answer, h]

end Errand

/-- What errands come to, in order, at a desk with a new store in memory. -/
def outcomes (base : Gateway.Base) (errands : List Errand) : List Outcome :=
  (Session.use (.memory .empty) base (errands.map Errand.operation)).2.map Prod.fst

section

variable (base : Gateway.Base) {errands : List Errand} (few : (keptUrls errands).length < idCount)

include few

/-- Every errand gets its answer. -/
theorem getElem?_outcomes {i : Nat} {errand : Errand} (h : errands[i]? = some errand) :
    (outcomes base errands)[i]? = some (errand.answer (keptUrls (errands.take (i + 1)))) := by
  have hoperation : (errands.map Errand.operation)[i]? = some errand.operation := by
    rw [List.getElem?_map, h, Option.map_some]
  have hconcat : errands.take (i + 1) = errands.take i ++ [errand] := by
    rw [List.take_add_one, h, Option.toList_some]
  have room := fun j => length_keptUrls_lt (List.take_prefix j errands) few
  obtain ⟨m, -, ran⟩ := Session.run_memory base (errands.map Errand.operation)
  rw [outcomes, ran, List.getElem?_map, Session.getElem?_onLedger base hoperation, ← List.map_take,
    ledger_eq base _ (room i), hconcat]
  have fits : (keptUrls (errands.take i ++ [errand])).length < idCount := hconcat ▸ room (i + 1)
  exact congrArg some (errand.run_eq base (errands.take i) fits).1

/-- A url that got an id was accepted, and the id is its position. -/
theorem of_made {i : Nat} {url : String} {id : LinkId} (h : errands[i]? = some (.make url))
    (made : (outcomes base errands)[i]? = some (.made (.ok id))) :
    url ∈ keptUrls (errands.take (i + 1)) ∧
      .ofNat ((keptUrls (errands.take (i + 1))).idxOf url + 1) = id := by
  rw [getElem?_outcomes base few h, Option.some_inj, Errand.answer_make_eq_ok] at made
  obtain ⟨ok, hid⟩ := made
  refine ⟨mem_keptUrls.mpr ⟨?_, ok⟩, hid⟩
  rw [List.take_add_one, h]
  simp

/-- The url at a position was sent, and the position is what it got. -/
theorem exists_made {n : Nat} {url : String} {id : LinkId}
    (h : urlAt? (keptUrls (errands.take n)) id = some url) :
    ∃ i < n, errands[i]? = some (.make url) ∧
      (outcomes base errands)[i]? = some (.made (.ok id)) := by
  obtain ⟨k, hid, hurl⟩ := urlAt?_eq_some_iff.mp h
  obtain ⟨hk, rfl⟩ := List.getElem?_eq_some_iff.mp hurl
  obtain ⟨hsent, ok⟩ := mem_keptUrls.mp (List.getElem_mem hk)
  obtain ⟨i, hi⟩ := List.mem_iff_getElem?.mp hsent
  rw [List.getElem?_take] at hi
  by_cases hlt : i < n
  · rw [if_pos hlt] at hi
    refine ⟨i, hlt, hi, ?_⟩
    have hmem : (keptUrls (errands.take n))[k] ∈ keptUrls (errands.take (i + 1)) := by
      refine mem_keptUrls.mpr ⟨?_, ok⟩
      rw [List.take_add_one, hi]
      simp
    have earlier : errands.take (i + 1) <+: errands.take n :=
      List.take_prefix_take_left hlt
    rw [getElem?_outcomes base few hi, Option.some_inj, Errand.answer_make_eq_ok,
      (prefix_keptUrls earlier).idxOf_eq_of_mem hmem, (nodup_keptUrls _).idxOf_getElem, ← hid,
      LinkId.ofNat_toNat]
    exact ⟨ok, rfl⟩
  · rw [if_neg hlt] at hi
    cases hi

end

/-- **Links are numbered in the order of their urls.** Any errands, in any order, at a desk with a
    new store in memory, as long as there are ids for the urls: each errand gets the answer that the
    list of the distinct accepted urls so far tells, and the store has as many links as that list is
    long. In particular,

    * an id that was made leads to its url from then on;
    * two ids that were made are equal just if their urls are;
    * an id that was not made so far leads nowhere. -/
theorem answers_by_position (base : Gateway.Base) (errands : List Errand)
    (few : (keptUrls errands).length < idCount) :
    (∀ (i : Nat) errand, errands[i]? = some errand →
      (outcomes base errands)[i]? = some (errand.answer (keptUrls (errands.take (i + 1))))) ∧
    (∀ i, (Session.use (.memory .empty) base
        ((errands.take i).map Errand.operation)).1.backing.size =
      .ok (.links (keptUrls (errands.take i)).length)) ∧
    (∀ (i j : Nat) url id, i < j → errands[i]? = some (.make url) →
      (outcomes base errands)[i]? = some (.made (.ok id)) → errands[j]? = some (.resolve id) →
      (outcomes base errands)[j]? = some (.resolved (.ok url))) ∧
    (∀ (i j : Nat) u v a b, errands[i]? = some (.make u) → errands[j]? = some (.make v) →
      (outcomes base errands)[i]? = some (.made (.ok a)) →
      (outcomes base errands)[j]? = some (.made (.ok b)) → (a = b ↔ u = v)) ∧
    (∀ (j : Nat) id, errands[j]? = some (.resolve id) →
      (∀ i < j, (outcomes base errands)[i]? ≠ some (.made (.ok id))) →
      (outcomes base errands)[j]? = some (.resolved (.error (.notFound id)))) := by
  have room := fun j => length_keptUrls_lt (List.take_prefix j errands) few
  refine ⟨fun i errand h => getElem?_outcomes base few h, ?_, ?_, ?_, ?_⟩
  · intro i
    rw [Session.size_run_memory, ledger_eq base _ (room i)]
    have size : ∀ l : Ledger, l.size = l.urls.length := fun l => by simp [Ledger.size, Ledger.urls]
    rw [size, Ledger.urls_pushAll]
    rfl
  · intro i j url id hij hmake made hresolve
    obtain ⟨hmem, rfl⟩ := of_made base few hmake made
    have earlier : errands.take (i + 1) <+: errands.take (j + 1) :=
      List.take_prefix_take_left (by omega)
    rw [getElem?_outcomes base few hresolve,
      Errand.answer_resolve_of_some (urlAt?_idxOf earlier (room _) hmem)]
  · intro i j u v a b hu hv ha hb
    obtain ⟨hmem, rfl⟩ := of_made base few hu ha
    obtain ⟨hmem', rfl⟩ := of_made base few hv hb
    have whole := fun k => prefix_keptUrls (List.take_prefix k errands)
    have hlt := List.idxOf_lt_length_of_mem ((whole _).subset hmem)
    have hlt' := List.idxOf_lt_length_of_mem ((whole _).subset hmem')
    rw [(whole _).idxOf_eq_of_mem hmem, (whole _).idxOf_eq_of_mem hmem',
      LinkId.ofNat_inj (by omega) (by omega), Nat.add_right_cancel_iff,
      List.idxOf_inj ((whole _).subset hmem)]
  · intro j id hresolve never
    rw [getElem?_outcomes base few hresolve, Errand.answer_resolve_of_none]
    cases hat : urlAt? (keptUrls (errands.take (j + 1))) id with
    | none => rfl
    | some url =>
      -- The url at the position of the id was sent before, and got this id.
      obtain ⟨i, hij, hmake, made⟩ := exists_made base few hat
      rcases Nat.lt_succ_iff_lt_or_eq.mp hij with hlt | rfl
      · exact absurd made (never i hlt)
      · rw [hresolve] at hmake
        cases hmake

/-- Urls that differ only in case are two urls; a url that is refused has no position. -/
theorem answers_by_position_of_five :
    let errands : List Errand :=
      [.make "http://a.b/", .make "a.b", .make "http://A.B/", .resolve ⟨2⟩, .resolve ⟨3⟩]
    (keptUrls errands).length < idCount ∧
      (outcomes (.ofText "/") errands)[3]? = some (.resolved (.ok "http://A.B/")) ∧
      (outcomes (.ofText "/") errands)[4]? = some (.resolved (.error (.notFound ⟨3⟩))) := by
  intro errands
  have kept : keptUrls errands = ["http://a.b/", "http://A.B/"] := by decide +kernel
  have few : (keptUrls errands).length < idCount := by
    rw [kept]
    decide
  obtain ⟨answered, -⟩ := answers_by_position (.ofText "/") errands few
  refine ⟨few, ?_, ?_⟩
  · rw [answered 3 (.resolve ⟨2⟩) rfl]
    exact congrArg some (Errand.answer_resolve_of_some (by decide +kernel))
  · rw [answered 4 (.resolve ⟨3⟩) rfl]
    exact congrArg some (Errand.answer_resolve_of_none (by decide +kernel))

end LinkLedger.Desk
