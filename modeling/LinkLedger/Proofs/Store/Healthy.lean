import LinkLedger.Proofs.Runs
import LinkLedger.Proofs.Store.Coherent
import LinkLedger.Store.Indexes

/-!
# Stores that keep a ledger

`Healthy store holds limit` is what a request may rely on: in a state that `holds` a ledger, the
look-ups answer from that ledger, an insertion of a url that is there is a conflict, and an
insertion of one that is not gets the next id and adds the link, as long as the next id is below
`limit`. Each answer is given at once, and nothing fails otherwise.

A healthy store runs every program as the ledger does while its ids last (`Healthy.lockstep`).
**The indexes in memory are healthy** (`Indexes.healthy`), without any limit but that of the words;
they answer as the ledger does even beyond it (`Indexes.lockstep`).
-/

set_option autoImplicit false

namespace LinkLedger

variable {σ : Type}

/-- A store that answers from a ledger and gives out the ids below a limit. -/
structure Healthy (store : Store σ) (holds : σ → Ledger → Prop) (limit : Nat) : Prop where
  limit_le : limit ≤ idCount
  find : ∀ {s l n} (url), holds s l → l.Coherent n →
    (store.answer (.findByUrl url) s).1 = .ok (l.idOf? url) ∧
      holds (store.answer (.findByUrl url) s).2 l
  get : ∀ {s l n} (id), holds s l → l.Coherent n →
    (store.answer (.get id) s).1 = .ok (l.get? id) ∧ holds (store.answer (.get id) s).2 l
  conflict : ∀ {s l n} {url}, holds s l → l.Coherent n → url ∈ l.urls →
    (store.answer (.insert url) s).1 = .error ⟨.conflict, url⟩ ∧
      holds (store.answer (.insert url) s).2 l
  insert : ∀ {s l n} {url}, holds s l → l.Coherent n → url ∉ l.urls → n < limit →
    (store.answer (.insert url) s).1 = .ok l.next ∧
      holds (store.answer (.insert url) s).2 (l.push url)

/-! ## The ledger as its own store -/

namespace Ledger

theorem insert_of_mem {l : Ledger} {url : String} (h : url ∈ l.urls) :
    l.insert url = (.error ⟨.conflict, url⟩, l) := by
  unfold insert
  cases hfound : l.idOf? url with
  | none => exact absurd h (idOf?_eq_none_iff.mp hfound)
  | some id => rfl

theorem insert_of_not_mem {l : Ledger} {url : String} (h : url ∉ l.urls) :
    l.insert url = (.ok l.next, l.push url) := by
  unfold insert
  rw [idOf?_eq_none_iff.mpr h]

/-- Links are only ever added, at the end. -/
theorem links_prefix_answer (call : Call) (l : Ledger) :
    l.links <+: (store.answer call l).2.links := by
  cases call with
  | findByUrl url => exact List.prefix_rfl
  | get id => exact List.prefix_rfl
  | insert url =>
    show l.links <+: (l.insert url).2.links
    by_cases h : url ∈ l.urls
    · simp [insert_of_mem h]
    · rw [insert_of_not_mem h]
      exact List.prefix_append _ _

theorem size_le_answer (call : Call) (l : Ledger) : l.size ≤ (store.answer call l).2.size :=
  (links_prefix_answer call l).length_le

end Ledger

/-- What is in step with the ledger is healthy. -/
theorem Lockstep.healthy {store : Store σ} {holds : σ → Ledger → Prop}
    (h : Lockstep store Ledger.store holds fun _ => True) : Healthy store holds idCount where
  limit_le := Nat.le_refl _
  find url hs _ := ⟨h.answer_eq (.findByUrl url) hs trivial, h.related (.findByUrl url) hs trivial⟩
  get id hs _ := ⟨h.answer_eq (.get id) hs trivial, h.related (.get id) hs trivial⟩
  conflict {s l n url} hs _ hmem := by
    have answer : Ledger.store.answer (.insert url) l = _ := Ledger.insert_of_mem hmem
    have value := h.answer_eq (.insert url) hs trivial
    have after := h.related (.insert url) hs trivial
    rw [answer] at value after
    exact ⟨value, after⟩
  insert {s l n url} hs _ hnew _ := by
    have answer : Ledger.store.answer (.insert url) l = _ := Ledger.insert_of_not_mem hnew
    have value := h.answer_eq (.insert url) hs trivial
    have after := h.related (.insert url) hs trivial
    rw [answer] at value after
    exact ⟨value, after⟩

/-- A healthy store that reports nothing is in step with the ledger for as long as its ids last. The
ledger's next id is told from its size, which `first` fixes. -/
theorem Healthy.lockstep {store : Store σ} {holds : σ → Ledger → Prop} {limit : Nat}
    (h : Healthy store holds limit) (quiet : ∀ call s, store.remarks call s = []) (first : Nat) :
    Lockstep store Ledger.store (fun s l => holds s l ∧ l.Coherent (first + l.size))
      (fun l => first + l.size ≤ limit) := by
  -- Everything a question can do, at once: its answer and the two states after it.
  have main : ∀ {call s l}, holds s l → l.Coherent (first + l.size) →
      first + (Ledger.store.answer call l).2.size ≤ limit →
      (store.answer call s).1 = (Ledger.store.answer call l).1 ∧
        holds (store.answer call s).2 (Ledger.store.answer call l).2 ∧
        (Ledger.store.answer call l).2.Coherent (first + (Ledger.store.answer call l).2.size) := by
    intro call s l hs hl room
    cases call with
    | findByUrl url => exact ⟨(h.find url hs hl).1, (h.find url hs hl).2, hl⟩
    | get id => exact ⟨(h.get id hs hl).1, (h.get id hs hl).2, hl⟩
    | insert url =>
      by_cases hmem : url ∈ l.urls
      · have answer : Ledger.store.answer (.insert url) l = _ := Ledger.insert_of_mem hmem
        rw [answer]
        exact ⟨(h.conflict hs hl hmem).1, (h.conflict hs hl hmem).2, hl⟩
      · have answer : Ledger.store.answer (.insert url) l = _ := Ledger.insert_of_not_mem hmem
        rw [answer] at room ⊢
        have grown : (l.push url).size = l.size + 1 := by simp [Ledger.size, Ledger.push]
        rw [grown] at room ⊢
        have fits : first + l.size < limit := by omega
        exact ⟨(h.insert hs hl hmem fits).1, (h.insert hs hl hmem fits).2,
          hl.push hmem (Nat.lt_of_lt_of_le fits h.limit_le)⟩
  exact {
    room_before := fun {call l} room => by
      have := Ledger.size_le_answer call l
      omega
    answer_eq := fun _ {_ _} related room => (main related.1 related.2 room).1
    related := fun _ {_ _} related room => (main related.1 related.2 room).2
    remarks_eq := fun {call s _} _ => quiet call s }

/-! ## The indexes in memory -/

/-- In an index whose keys differ, a look-up finds exactly what is written there. -/
theorem lookup_eq_some_iff_mem {κ ν : Type} [DecidableEq κ] {entries : List (κ × ν)}
    (h : (entries.map Prod.fst).Nodup) {k : κ} {v : ν} :
    entries.lookup k = some v ↔ (k, v) ∈ entries := by
  induction entries with
  | nil => simp
  | cons entry rest ih =>
    obtain ⟨k', v'⟩ := entry
    obtain ⟨hhead, hrest⟩ := List.nodup_cons.mp h
    by_cases hk : k = k'
    · subst hk
      have hnone : (k, v) ∉ rest := fun hmem => hhead (List.mem_map.mpr ⟨_, hmem, rfl⟩)
      simp [hnone, eq_comm]
    · rw [List.lookup_cons, beq_false_of_ne hk, List.mem_cons, ih hrest]
      simp [hk]

namespace Indexes

/-- The indexes are inverse to each other and stand for this ledger. -/
structure Holds (m : Indexes) (l : Ledger) : Prop where
  ledger_eq : m.ledger = l
  inverse : m.byUrl.Perm (m.byId.map Prod.swap)
  urls_nodup : (m.byUrl.map Prod.fst).Nodup

theorem holds_empty : empty.Holds .empty where
  ledger_eq := rfl
  inverse := .nil
  urls_nodup := List.nodup_nil

namespace Holds

variable {m : Indexes} {l : Ledger}

theorem mem_byId (h : m.Holds l) {id : LinkId} {url : String} :
    (id, url) ∈ m.byId ↔ ⟨id, url⟩ ∈ l.links := by
  rw [← h.ledger_eq, ledger, List.mem_reverse, List.mem_map]
  constructor
  · intro hmem
    exact ⟨(id, url), hmem, rfl⟩
  · rintro ⟨⟨id', url'⟩, hmem, heq⟩
    cases heq
    exact hmem

theorem mem_byUrl (h : m.Holds l) {id : LinkId} {url : String} :
    (url, id) ∈ m.byUrl ↔ ⟨id, url⟩ ∈ l.links := by
  rw [h.inverse.mem_iff, ← h.mem_byId]
  simp

theorem next_eq (h : m.Holds l) : m.next = l.next := congrArg Ledger.next h.ledger_eq

theorem size_eq (h : m.Holds l) : m.size = l.size := by
  rw [← h.ledger_eq]
  simp [size, Ledger.size, ledger]

theorem ledger_urls_nodup (h : m.Holds l) : l.urls.Nodup := by
  have hsame : l.urls.Perm (m.byUrl.map Prod.fst) := by
    rw [← h.ledger_eq]
    refine List.Perm.trans ?_ (h.inverse.map Prod.fst).symm
    simp only [Ledger.urls, ledger, List.map_reverse, List.map_map]
    exact List.reverse_perm _
  exact hsame.nodup_iff.mpr h.urls_nodup

theorem idOf?_eq (h : m.Holds l) (url : String) : m.idOf? url = l.idOf? url := by
  apply Option.ext
  intro id
  rw [Ledger.idOf?_eq_some_iff h.ledger_urls_nodup, ← h.mem_byUrl]
  exact lookup_eq_some_iff_mem h.urls_nodup

/-- The newest entry counts in the index and in the ledger. -/
theorem get?_eq (h : m.Holds l) (id : LinkId) : m.get? id = l.get? id := by
  rw [← h.ledger_eq]
  simp only [get?, Ledger.get?, ledger, List.reverse_reverse]
  induction m.byId with
  | nil => rfl
  | cons entry rest ih =>
    obtain ⟨id', url⟩ := entry
    by_cases hid : id = id'
    · simp [hid]
    · rw [List.lookup_cons, beq_false_of_ne hid, List.map_cons, List.find?_cons_of_neg]
      · exact ih
      · simpa using Ne.symm hid

theorem insert (h : m.Holds l) (url : String) :
    (m.insert url).1 = (l.insert url).1 ∧ (m.insert url).2.Holds (l.insert url).2 := by
  unfold Indexes.insert Ledger.insert
  rw [h.idOf?_eq]
  cases hfound : l.idOf? url with
  | some id => exact ⟨rfl, h⟩
  | none =>
    refine ⟨congrArg Except.ok h.next_eq, ?_, ?_, ?_⟩
    · rw [← h.ledger_eq]
      simp [ledger, Ledger.push]
    · exact h.inverse.cons _
    · refine List.nodup_cons.mpr ⟨fun hused => ?_, h.urls_nodup⟩
      obtain ⟨⟨url', id⟩, hmem, rfl⟩ := List.mem_map.mp hused
      exact Ledger.idOf?_eq_none_iff.mp hfound (Ledger.mem_urls.mpr ⟨id, h.mem_byUrl.mp hmem⟩)

end Holds

/-- **The indexes answer as the ledger that they stand for**, whatever they are asked. -/
theorem lockstep : Lockstep store Ledger.store Holds fun _ => True where
  room_before _ := trivial
  answer_eq call m l h _ := by
    cases call with
    | findByUrl url => exact congrArg Except.ok (h.idOf?_eq url)
    | insert url => exact (h.insert url).1
    | get id => exact congrArg Except.ok (h.get?_eq id)
  related call m l h _ := by
    cases call with
    | findByUrl url => exact h
    | insert url => exact (h.insert url).2
    | get id => exact h
  remarks_eq _ := rfl

theorem healthy : Healthy store Holds idCount := lockstep.healthy

end Indexes

end LinkLedger
