import LinkLedger.Proofs.Sessions

/-!
# Memory and table are interchangeable

Two indexes and a counter on one side, a table of rows with the largest key ever used on the other:
both are in step with the ledger, hence with each other, until the keys of the table run out.

**`memory_and_table_agree`: whatever users do, they cannot tell the two apart**, and the same links
are kept after each thing they do.
-/

set_option autoImplicit false

namespace LinkLedger

/-- The rows of a table are the entries of the index by id, oldest first, if both hold the same
    ledger. -/
theorem Table.Holds.rows_eq_byId {t : Table} {m : Indexes} {l : Ledger} (table : t.Holds l)
    (memory : m.Holds l) :
    t.rows = (m.byId.map fun (id, url) => Link.row ⟨id, url⟩).reverse := by
  rw [table.rows_eq, ← memory.ledger_eq, Indexes.ledger, List.map_reverse, List.map_map]
  rfl

/-- **Memory and table are interchangeable.** Begin with empty indexes in memory and with an empty
    table, and let users do the same things in the same order to both, making fewer links than there
    are keys. Then everything has the same outcome and reports the same events; and after each thing
    done, the index by url is the index by id turned round, and the rows of the table are its
    entries, oldest first. -/
theorem memory_and_table_agree (base : Gateway.Base) (operations : List Operation)
    (few : ∃ n < maxKey,
      (Session.use (.memory .empty) base operations).1.backing.size = .ok (.links n)) :
    (Session.use (.database .fresh) base operations).2 =
      (Session.use (.memory .empty) base operations).2 ∧
    ∀ before, before <+: operations → ∃ (m : Indexes) (t : Table),
      (Session.use (.memory .empty) base before).1.backing = .memory m ∧
      (Session.use (.database .fresh) base before).1.backing =
        .database ⟨⟨some t⟩, .ready⟩ ∧
      m.byUrl.Perm (m.byId.map Prod.swap) ∧
      t.rows = (m.byId.map fun (id, url) => Link.row ⟨id, url⟩).reverse := by
  obtain ⟨n, hn, hsize⟩ := few
  rw [Session.size_run_memory] at hsize
  cases hsize
  -- A shorter run has no more links, so its keys do not run out either.
  have room : ∀ before, before <+: operations → (Session.onLedger base before).1.size < maxKey :=
    fun before h => Nat.lt_of_le_of_lt (Session.links_prefix_onLedger base h).length_le hn
  constructor
  · obtain ⟨m, -, memory⟩ := Session.run_memory base operations
    obtain ⟨p, -, table⟩ := Session.run_table base operations (room operations List.prefix_rfl)
    rw [memory, table]
  · intro before h
    obtain ⟨m, holds, memory⟩ := Session.run_memory base before
    obtain ⟨_, ⟨t, rfl, ht⟩, table⟩ := Session.run_table base before (room before h)
    refine ⟨m, t, ?_, ?_, holds.inverse, ht.rows_eq_byId holds⟩
    · rw [memory]
      rfl
    · rw [table]
      rfl

/-- Accepted urls, urls that the desk would refuse, repeated ones, and ids of all sizes. -/
theorem memory_and_table_agree_mixed :
    let operations : List Operation := [.make "http://a.b/", .ask (.insert ""), .ask (.insert ""),
      .make "a.b", .ask (.get ⟨18446744073709551615⟩), .ask (.findByUrl "HTTP://A.B/"),
      .resolve ⟨1⟩, .resolve ⟨3⟩]
    (Session.use (.memory .empty) (.ofText "/") operations).1.backing.size = .ok (.links 2) ∧
      (Session.use (.database .fresh) (.ofText "/") operations).2 =
        (Session.use (.memory .empty) (.ofText "/") operations).2 := by
  intro operations
  have size : (Session.use (.memory .empty) (.ofText "/") operations).1.backing.size =
      .ok (.links 2) := by decide +kernel
  exact ⟨size, (memory_and_table_agree (.ofText "/") operations ⟨2, by decide, size⟩).1⟩

end LinkLedger
