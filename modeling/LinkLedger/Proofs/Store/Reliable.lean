import LinkLedger.Proofs.Store.Faults
import LinkLedger.Proofs.Store.Rows

/-!
# Reliable stores

`Reliable store holds limit` is the contract of a store to the last id: as long as ids below `limit`
are left it is healthy, and when there are none its look-ups still answer from the ledger, and an
insertion fails and adds nothing. **The indexes in memory and a table behind a ready connection are
reliable** (`Indexes.reliable`, `Pool.reliable`); the table gives out every key there is.

Seen through the layer of faults, **a reliable store answers too little, but never wrongly**
(`Reliable.find_faulty`, `Reliable.insert_faulty`): an id that a look-up gives is written down, and
an insertion either adds the url under the id that it gives, or fails and adds nothing.
-/

set_option autoImplicit false

namespace LinkLedger

variable {σ : Type}

/-! ## Stores to the last id -/

/-- The state of a store that is in order: it holds a coherent ledger whose next id is `n`, and
    every id so far is below the limit. -/
structure InOrder (holds : σ → Ledger → Prop) (limit : Nat) (s : σ) (l : Ledger) (n : Nat) :
    Prop where
  holds_now : holds s l
  coherent : l.Coherent n
  within : n ≤ limit

/-- A store that answers from a ledger and gives out the ids below a limit, and then no more. A
    store with an id for every word is never found full. -/
structure Reliable (store : Store σ) (holds : σ → Ledger → Prop) (limit : Nat) : Prop where
  limit_le : limit ≤ idCount
  find : ∀ {s l n} (url), InOrder holds limit s l n →
    (store.answer (.findByUrl url) s).1 = .ok (l.idOf? url) ∧
      holds (store.answer (.findByUrl url) s).2 l
  get : ∀ {s l n} (id), InOrder holds limit s l n →
    (store.answer (.get id) s).1 = .ok (l.get? id) ∧ holds (store.answer (.get id) s).2 l
  conflict : ∀ {s l n} {url}, InOrder holds limit s l n → n < limit → url ∈ l.urls →
    (store.answer (.insert url) s).1 = .error ⟨.conflict, url⟩ ∧
      holds (store.answer (.insert url) s).2 l
  insert : ∀ {s l n} {url}, InOrder holds limit s l n → n < limit → url ∉ l.urls →
    (store.answer (.insert url) s).1 = .ok l.next ∧
      holds (store.answer (.insert url) s).2 (l.push url)
  full : ∀ {s l} (url), limit < idCount → InOrder holds limit s l limit →
    (∃ failure, (store.answer (.insert url) s).1 = .error failure) ∧
      holds (store.answer (.insert url) s).2 l

/-- A healthy store with an id for every word is reliable. -/
theorem Healthy.reliable {store : Store σ} {holds : σ → Ledger → Prop}
    (h : Healthy store holds idCount) : Reliable store holds idCount where
  limit_le := Nat.le_refl _
  find url s := h.find url s.holds_now s.coherent
  get id s := h.get id s.holds_now s.coherent
  conflict s _ hmem := h.conflict s.holds_now s.coherent hmem
  insert s room hnew := h.insert s.holds_now s.coherent hnew room
  full _ hlt _ := absurd hlt (Nat.lt_irrefl _)

/-- **The indexes in memory are reliable.** -/
theorem Indexes.reliable : Reliable store Holds idCount := healthy.reliable

/-- **A table behind a ready connection is reliable**, to the largest key. -/
theorem Pool.reliable : Reliable store Keeps (maxKey + 1) where
  limit_le := by decide
  find url s := ⟨congrArg outcome (findByUrl_eq s.holds_now url), s.holds_now⟩
  get id s := ⟨congrArg outcome (get_eq s.holds_now s.coherent id), s.holds_now⟩
  conflict s room hmem := by
    have holds := s.holds_now.holds s.coherent (Nat.le_of_lt_succ room)
    have answer := insert_of_mem holds hmem
    exact ⟨congrArg Prod.fst answer, (congrArg Prod.snd answer) ▸ s.holds_now⟩
  insert s room hnew :=
    insert_of_not_mem (s.holds_now.holds s.coherent (Nat.le_of_lt_succ room)) hnew
  full url _ s := by
    have answer := insert_of_full s.holds_now s.coherent url
    exact ⟨⟨_, congrArg Prod.fst answer⟩, (congrArg Prod.snd answer) ▸ s.holds_now⟩

/-! ## Behind the layer of faults -/

namespace Reliable

variable {store : Store σ} {holds : σ → Ledger → Prop} {limit : Nat} {state : σ × FaultPlan}
  {l : Ledger} {n : Nat}

/-- **An id that a look-up gives is written down**, whatever the layer does. -/
theorem find_faulty (h : Reliable store holds limit) (s : InOrder holds limit state.1 l n)
    (url : String) :
    (∀ id, (store.faulty.answer (.findByUrl url) state).1 = .ok (some id) →
      l.idOf? url = some id) ∧
      InOrder holds limit (store.faulty.answer (.findByUrl url) state).2.1 l n := by
  obtain ⟨found, after⟩ := h.find url s
  obtain ⟨later, answer | ⟨failure, answer⟩ | ⟨outcome, nothing, answer⟩⟩ :=
    store.faulty_answer_cases (.findByUrl url) state
  · rw [answer]
    refine ⟨fun id hid => ?_, after, s.coherent, s.within⟩
    rw [found] at hid
    exact Except.ok.inj hid
  · rw [answer]
    refine ⟨fun id hid => ?_, s⟩
    cases hid
  · rw [answer]
    refine ⟨fun id hid => ?_, s⟩
    cases nothing
    cases hid

/-- **An insertion adds the url under the id that it gives, or fails and adds nothing**, whatever
    the layer does and however few ids are left. -/
theorem insert_faulty (h : Reliable store holds limit) (s : InOrder holds limit state.1 l n)
    (words : n < idCount) (url : String) :
    ((∃ failure, (store.faulty.answer (.insert url) state).1 = .error failure) ∧
      InOrder holds limit (store.faulty.answer (.insert url) state).2.1 l n) ∨
    (url ∉ l.urls ∧ (store.faulty.answer (.insert url) state).1 = .ok l.next ∧
      InOrder holds limit (store.faulty.answer (.insert url) state).2.1 (l.push url) (n + 1)) := by
  obtain ⟨later, answer | ⟨failure, answer⟩ | ⟨outcome, nothing, answer⟩⟩ :=
    store.faulty_answer_cases (.insert url) state
  · rw [answer]
    rcases Nat.lt_or_eq_of_le s.within with room | rfl
    · by_cases hmem : url ∈ l.urls
      · obtain ⟨refused, after⟩ := h.conflict s room hmem
        exact .inl ⟨⟨_, refused⟩, after, s.coherent, s.within⟩
      · obtain ⟨given, after⟩ := h.insert s room hmem
        exact .inr ⟨hmem, given, after, s.coherent.push hmem words, room⟩
    · obtain ⟨refused, after⟩ := h.full url words s
      exact .inl ⟨refused, after, s.coherent, s.within⟩
  · rw [answer]
    exact .inl ⟨⟨failure, rfl⟩, s⟩
  · cases nothing

end Reliable

end LinkLedger
