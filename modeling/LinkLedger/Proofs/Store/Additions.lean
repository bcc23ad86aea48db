import LinkLedger.Proofs.Store.Conflicts

/-!
# What one insertion changes

`Backing.Adds before link after` says all that changes when a link is added: one row more, at the
end; the url of the link is found, and every other url and every other id is found as before.
**An insertion adds a link or changes nothing** (`Backing.insert_fails_or_adds`), whatever state it
finds, and in a state that a session can come to, the id that it gives out was free.
-/

set_option autoImplicit false

namespace LinkLedger

namespace Backing

/-- The links that are kept, each as a row, oldest first. -/
def rows : Backing → List Row
  | memory m => m.ledger.links.map Link.row
  | database p => (p.database.table.map Table.rows).getD []
  | closedServer => []

/-- One link is added, and nothing else changes. -/
structure Adds (before : Backing) (link : Link) (after : Backing) : Prop where
  rows_eq : after.rows = before.rows ++ [link.row]
  found : (store.answer (.findByUrl link.url) after).1 = .ok (some link.id)
  other_urls : ∀ url, url ≠ link.url →
    (store.answer (.findByUrl url) after).1 = (store.answer (.findByUrl url) before).1
  other_ids : ∀ id, id ≠ link.id →
    (store.answer (.get id) after).1 = (store.answer (.get id) before).1
  /-- As long as there are ids, a session never gives one out twice. -/
  fresh : before.Reachable → after.rows.length < idCount →
    ∀ row ∈ before.rows, row.key ≠ link.row.key

end Backing

/-! ## In memory -/

namespace Indexes

variable {m : Indexes} {url : String}

theorem insert_of_known {id : LinkId} (h : m.idOf? url = some id) :
    m.insert url = (.error ⟨.conflict, url⟩, m) := by
  simp only [insert, h]

theorem insert_of_new (h : m.idOf? url = none) :
    m.insert url = (.ok m.next, { m with
      byUrl := (url, m.next) :: m.byUrl
      byId := (m.next, url) :: m.byId
      next := ⟨m.next.word + 1⟩ }) := by
  simp only [insert, h]

end Indexes

namespace Backing

/-- The indexes hold a ledger, with the ids from 1 on until all are used. -/
def NumberedIndexes (m : Indexes) : Prop :=
  m.Holds m.ledger ∧ (m.ledger.size < idCount → m.ledger.Coherent (1 + m.ledger.size))

theorem numberedIndexes_answer (call : Call) (m : Indexes) (h : NumberedIndexes m) :
    NumberedIndexes (Indexes.store.answer call m).2 := by
  obtain ⟨holds, coherent⟩ := h
  have after : (Indexes.store.answer call m).2.Holds (Ledger.store.answer call m.ledger).2 :=
    Indexes.lockstep.related call holds trivial
  have grown := Ledger.size_le_answer call m.ledger
  rw [NumberedIndexes, after.ledger_eq]
  refine ⟨after, fun few => ?_⟩
  have lockstep := Indexes.healthy.lockstep (fun _ _ => rfl) 1
  have room : 1 + (Ledger.store.answer call m.ledger).2.size ≤ idCount := by omega
  exact (lockstep.related call ⟨holds, coherent (by omega)⟩ room).2

/-- The indexes, if there are any, are numbered. -/
def Numbered (b : Backing) : Prop := ∀ m, b = memory m → NumberedIndexes m

theorem numbered_answer (call : Call) (b : Backing) (h : b.Numbered) :
    (store.answer call b).2.Numbered := by
  cases b with
  | memory m =>
    rintro _ ⟨⟩
    exact numberedIndexes_answer call m (h m rfl)
  | database p => exact nofun
  | closedServer => exact nofun

/-- What cannot be worked on directly is changed by answers alone. -/
theorem Numbered.work {b : Backing} (h : b.Numbered) (step : Step) : (step.work b).Numbered := by
  cases b with
  | memory m => rwa [step.work_memory]
  | database p => cases step <;> exact nofun
  | closedServer => cases step <;> exact nofun

theorem Reachable.numbered {m : Indexes} (h : (memory m).Reachable) : NumberedIndexes m := by
  obtain ⟨start, base, steps, new, -, reached⟩ := h
  suffices ((Session.start start base).run steps).1.backing.Numbered from this m reached
  refine Session.run_keeps numbered_answer (fun step _ b hb => hb.work step) ?_
  rcases new with rfl | rfl
  · rintro _ ⟨⟩
    exact ⟨Indexes.holds_empty, fun _ => Ledger.coherent_empty⟩
  · exact nofun

theorem Reachable.next_is_free {m : Indexes} (h : (memory m).Reachable)
    (few : m.ledger.size + 1 < idCount) (url : String) :
    ∀ row ∈ (memory m).rows, row.key ≠ (Link.mk m.next url).row.key := by
  intro row hrow
  obtain ⟨link, hlink, rfl⟩ := List.mem_map.mp hrow
  have coherent := h.numbered.2 (by omega)
  have hnext : m.next.word.toNat = 1 + m.ledger.size := by
    show m.ledger.next.word.toNat = _
    rw [coherent.next_eq, LinkId.toNat_ofNat (by omega)]
  have hlt := coherent.ids_lt link hlink
  show (link.id.word.toNat : Int) ≠ m.next.word.toNat
  omega

theorem memory_adds {m : Indexes} {url : String} (new : m.idOf? url = none) :
    (memory m).Adds ⟨m.next, url⟩ (memory (m.insert url).2) := by
  rw [Indexes.insert_of_new new]
  refine ⟨?_, ?_, fun other hne => ?_, fun id hne => ?_, fun reachable few => ?_⟩
  · simp [rows, Indexes.ledger]
  · show Except.ok (List.lookup url ((url, m.next) :: m.byUrl)) = .ok (some m.next)
    rw [List.lookup_cons, beq_self_eq_true]
  · show Except.ok (List.lookup other ((url, m.next) :: m.byUrl)) = .ok (List.lookup other m.byUrl)
    rw [List.lookup_cons, beq_false_of_ne hne]
  · have same : List.lookup id ((m.next, url) :: m.byId) = List.lookup id m.byId := by
      rw [List.lookup_cons, beq_false_of_ne hne]
    show Except.ok ((List.lookup id ((m.next, url) :: m.byId)).map _) = _
    rw [same]
    rfl
  · refine reachable.next_is_free ?_ url
    simpa [rows, Indexes.ledger, Ledger.size] using few

/-! ## On a table -/

end Backing

namespace Table

variable {t : Table} {key : Int} {cell : Cell}

theorem byCell?_concat_self (new : ∀ row ∈ t.rows, row.cell ≠ cell) (lastKey : Nat) :
    byCell? ⟨t.rows ++ [⟨key, cell⟩], lastKey⟩ cell = some ⟨key, cell⟩ := by
  have hnone : t.byCell? cell = none := byCell?_eq_none_iff.mpr new
  rw [byCell?] at hnone
  simp [byCell?, List.find?_append, hnone]

theorem byCell?_concat {other : Cell} (hne : other ≠ cell) (lastKey : Nat) :
    byCell? ⟨t.rows ++ [⟨key, cell⟩], lastKey⟩ other = t.byCell? other := by
  simp [byCell?, List.find?_append, Ne.symm hne]

theorem byKey?_concat {other : Int} (hne : other ≠ key) (lastKey : Nat) :
    byKey? ⟨t.rows ++ [⟨key, cell⟩], lastKey⟩ other = t.byKey? other := by
  simp [byKey?, List.find?_append, Ne.symm hne]

end Table

namespace Pool

theorem insert_fails_or_adds (p : Pool) (url : String) :
    (∃ failure, p.insert url = (.error failure, p)) ∨
    ∃ t, p.database.table = some t ∧ t.lastKey < maxKey ∧ p.obstacle? = none ∧
      (∀ row ∈ t.rows, row.cell ≠ .ofUrl url) ∧
      p.insert url = (.ok (.ofNat (t.lastKey + 1)),
        ⟨⟨some ⟨t.rows ++ [⟨t.lastKey + 1, .ofUrl url⟩], t.lastKey + 1⟩⟩, p.access⟩) := by
  rcases Pool.insert_cases p url with ⟨failure, answer, -⟩ | ⟨t, table, room, works, answer⟩
  · exact .inl ⟨failure, answer⟩
  · have writable : p.writeObstacle? = none := by
      unfold writeObstacle?
      split
      · rename_i hreadOnly
        simp [insert, writing, writeObstacle?, hreadOnly] at answer
      · exact works
    obtain ⟨-, answer'⟩ | ⟨-, -, answer'⟩ | ⟨-, new, -⟩ := insert_cases_of_works writable table url
    · exact .inl ⟨_, answer'⟩
    · exact .inl ⟨_, answer'⟩
    · exact .inr ⟨t, table, room, works, new, answer⟩

end Pool

namespace Backing

theorem Reachable.lawful {b : Backing} (h : b.Reachable) : b.Lawful := by
  obtain ⟨start, base, steps, new, signed, rfl⟩ := h
  refine Session.lawful_run ?_ signed
  rcases new with rfl | rfl
  · exact trivial
  · exact Database.lawful_empty

theorem database_adds {t : Table} {access : Access} {url : String} (room : t.lastKey < maxKey)
    (works : Pool.obstacle? ⟨⟨some t⟩, access⟩ = none)
    (new : ∀ row ∈ t.rows, row.cell ≠ .ofUrl url) :
    (database ⟨⟨some t⟩, access⟩).Adds ⟨.ofNat (t.lastKey + 1), url⟩
      (database ⟨⟨some ⟨t.rows ++ [⟨t.lastKey + 1, .ofUrl url⟩], t.lastKey + 1⟩⟩, access⟩) := by
  have hword : (LinkId.ofNat (t.lastKey + 1)).word.toNat = t.lastKey + 1 := Table.toNat_next room
  have hkey : LinkId.ofKey ((t.lastKey : Int) + 1) = .ok (.ofNat (t.lastKey + 1)) :=
    LinkId.ofKey_natCast
  -- whether statements get a connection does not depend on the rows
  have ready : ∀ t', Pool.obstacle? ⟨⟨some t'⟩, access⟩ = none := fun _ => works
  refine ⟨?_, ?_, fun other hne => ?_, fun id hne => ?_, fun reachable _ row hrow => ?_⟩
  · simp [rows, Link.row, hword]
  · show Pool.outcome (Pool.findByUrl _ url) = _
    simp only [Pool.findByUrl, Pool.reading, ready, Database.idOf?, Database.reading,
      Table.byCell?_concat_self new, hkey]
    rfl
  · have hcell : Cell.ofUrl other ≠ .ofUrl url := fun h => hne (Cell.ofUrl_inj.mp h)
    show Pool.outcome (Pool.findByUrl _ other) = Pool.outcome (Pool.findByUrl _ other)
    simp only [Pool.findByUrl, Pool.reading, ready, Database.idOf?, Database.reading,
      Table.byCell?_concat hcell]
  · show Pool.outcome (Pool.get _ id) = Pool.outcome (Pool.get _ id)
    cases hid : id.key? with
    | none => simp only [Pool.get, hid]
    | some key =>
      have hother : key ≠ t.lastKey + 1 := by
        intro h
        refine hne (LinkId.ofNat_toNat id ▸ congrArg LinkId.ofNat ?_)
        have := LinkId.eq_of_key? hid
        omega
      simp only [Pool.get, hid, Pool.reading, ready, Database.get?, Database.reading,
        Table.byKey?_concat hother]
  · have law : t.Lawful := reachable.lawful t rfl
    show row.key ≠ (LinkId.ofNat (t.lastKey + 1)).word.toNat
    rw [hword]
    exact law.key_ne_succ hrow

/-- **An insertion fails and changes nothing, or it adds a link to the url.** -/
theorem insert_fails_or_adds (url : String) (b : Backing) :
    (∃ failure, store.answer (.insert url) b = (.error failure, b)) ∨
    ∃ id after, store.answer (.insert url) b = (.ok id, after) ∧ b.Adds ⟨id, url⟩ after := by
  cases b with
  | closedServer => exact .inl ⟨_, rfl⟩
  | memory m =>
    have answered : store.answer (.insert url) (memory m) =
        ((m.insert url).1, memory (m.insert url).2) := rfl
    rw [answered]
    cases known : m.idOf? url with
    | some id =>
      rw [Indexes.insert_of_known known]
      exact .inl ⟨_, rfl⟩
    | none =>
      have adds := memory_adds known
      rw [Indexes.insert_of_new known] at adds ⊢
      exact .inr ⟨_, _, rfl, adds⟩
  | database p =>
    have answered : store.answer (.insert url) (database p) =
        ((p.insert url).1, database (p.insert url).2) := rfl
    rw [answered]
    rcases p.insert_fails_or_adds url with ⟨failure, answer⟩ | ⟨t, table, room, works, new, answer⟩
    · rw [answer]
      exact .inl ⟨failure, rfl⟩
    · rw [answer]
      obtain ⟨⟨_⟩, access⟩ := p
      cases table
      exact .inr ⟨_, _, rfl, database_adds room works new⟩

end Backing

end LinkLedger
