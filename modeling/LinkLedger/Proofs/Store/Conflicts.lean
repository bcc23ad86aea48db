import LinkLedger.Proofs.Store.Healthy
import LinkLedger.Proofs.Store.Reachable

/-!
# When an insertion is a conflict

A request that loses a race relies on being told so: its insertion has to be a conflict if the url
is there, and only then. In memory this holds however many links there are, because the two indexes
always stand for the same links (`Indexes.Holds`), whatever the steps of a session were. On a table
it holds until the last key has been used. From then on an insertion fails for want of a key before
any row is looked at, and **a url that is there is no longer told from one that is not**
(`Backing.conflict_is_missed`).

**`Backing.insert_conflicts_iff`: an insertion is a conflict exactly if the url is there and a key
is left.**
-/

set_option autoImplicit false

namespace LinkLedger

open LinkLedger.Gateway

namespace Indexes

variable {m : Indexes} {url : String}

theorem Holds.stores_iff {l : Ledger} (h : m.Holds l) :
    (∃ id, (id, url) ∈ m.byId) ↔ url ∈ l.urls := by
  rw [Ledger.mem_urls]
  exact exists_congr fun id => h.mem_byId

theorem Holds.insert_eq_conflict_iff {l : Ledger} (h : m.Holds l) :
    (m.insert url).1 = .error ⟨.conflict, url⟩ ↔ ∃ id, (id, url) ∈ m.byId := by
  rw [(h.insert url).1, h.stores_iff]
  by_cases there : url ∈ l.urls
  · simp [Ledger.insert_of_mem there, there]
  · simp [Ledger.insert_of_not_mem there, there]

theorem insert_eq_error {failure : StoreFailure} (h : (m.insert url).1 = .error failure) :
    failure = ⟨.conflict, url⟩ := by
  unfold insert at h
  cases found : m.idOf? url with
  | some id => simpa [found, eq_comm] using h
  | none => simp [found] at h

end Indexes

namespace Backing

/-! ## What a session can come to -/

/-- What keeps the links after some steps of a session that began with new indexes or a new file. -/
def Reachable (b : Backing) : Prop :=
  ∃ (start : Backing) (base : Base) (steps : List Step),
    (start = .memory .empty ∨ start = .database ⟨.empty, .ready⟩) ∧
      (∀ step ∈ steps, step.IsSigned) ∧ ((Session.start start base).run steps).1.backing = b

/-- The indexes, if there are any, stand for the same links. -/
def Indexed : Backing → Prop
  | memory m => m.Holds m.ledger
  | database _ | closedServer => True

theorem indexed_answer (call : Call) (b : Backing) (h : b.Indexed) :
    (store.answer call b).2.Indexed := by
  cases b with
  | memory m =>
    have after : (Indexes.store.answer call m).2.Holds (Ledger.store.answer call m.ledger).2 :=
      Indexes.lockstep.related call h trivial
    show (Indexes.store.answer call m).2.Holds (Indexes.store.answer call m).2.ledger
    rwa [after.ledger_eq]
  | database p => exact trivial
  | closedServer => exact trivial

theorem Reachable.indexed {b : Backing} (h : b.Reachable) : b.Indexed := by
  obtain ⟨start, base, steps, new, -, rfl⟩ := h
  refine Session.run_keeps indexed_answer (fun step _ b hb => ?_) ?_
  · cases b with
    | memory m => rwa [step.work_memory]
    | database p => cases step <;> exact trivial
    | closedServer => cases step <;> exact trivial
  · rcases new with rfl | rfl
    · exact Indexes.holds_empty
    · exact trivial

/-! ## Conflicts -/

/-- A link with this url is kept: in the index by id, or in a row, as text. -/
def Stores (b : Backing) (url : String) : Prop :=
  match b with
  | memory m => ∃ id, (id, url) ∈ m.byId
  | database p => ∃ t, p.database.table = some t ∧ ∃ row ∈ t.rows, row.cell = .ofUrl url
  | closedServer => False

/-- There is a table, if the links are kept in one, and it can be written to. -/
def Works : Backing → Prop
  | memory _ => True
  | database p => p.writeObstacle? = none ∧ p.database.table.isSome = true
  | closedServer => False

/-- The last key of the table, if there is one, has not been used. -/
def HasKeyLeft : Backing → Prop
  | database p => ∀ t, p.database.table = some t → t.lastKey < maxKey
  | memory _ | closedServer => True

/-- **An insertion is a conflict exactly if the url is there and a key is left**, whatever was done
    before. A conflict names the url; and where no key is left, every insertion fails for that
    reason, whether the url is there or not, and changes nothing. -/
theorem insert_conflicts_iff {b : Backing} (reachable : b.Reachable) (works : b.Works)
    (url : String) :
    ((store.answer (.insert url) b).1 = .error ⟨.conflict, url⟩ ↔ b.Stores url ∧ b.HasKeyLeft) ∧
    (∀ detail, (store.answer (.insert url) b).1 = .error ⟨.conflict, detail⟩ → detail = url) ∧
    (¬ b.HasKeyLeft → store.answer (.insert url) b = (.error SqlError.full.failure, b)) := by
  cases b with
  | closedServer => exact works.elim
  | memory m =>
    have holds : m.Holds m.ledger := reachable.indexed
    refine ⟨holds.insert_eq_conflict_iff.trans (and_iff_left trivial).symm, ?_, ?_⟩
    · intro detail conflict
      exact congrArg StoreFailure.detail (Indexes.insert_eq_error conflict)
    · intro full
      exact absurd trivial full
  | database p =>
    obtain ⟨writable, made⟩ := works
    obtain ⟨t, table⟩ := Option.isSome_iff_exists.mp made
    have stores : (database p).Stores url ↔ ∃ row ∈ t.rows, row.cell = .ofUrl url := by
      simp [Stores, table]
    have left : (database p).HasKeyLeft ↔ t.lastKey < maxKey := by
      simp [HasKeyLeft, table]
    have answered : store.answer (.insert url) (database p) =
        ((p.insert url).1, database (p.insert url).2) := rfl
    rw [stores, left, answered]
    obtain ⟨full, answer⟩ | ⟨room, there, answer⟩ | ⟨room, new, answer⟩ :=
      Pool.insert_cases_of_works writable table url
    · rw [answer]
      refine ⟨iff_of_false nofun fun h => ?_, nofun, fun _ => rfl⟩
      exact absurd h.2 (Nat.not_lt.mpr full)
    · rw [answer]
      refine ⟨iff_of_true rfl ⟨there, room⟩, ?_, absurd room⟩
      rintro detail ⟨⟩
      rfl
    · rw [answer]
      refine ⟨iff_of_false nofun fun h => ?_, nofun, absurd room⟩
      obtain ⟨row, hrow, same⟩ := h.1
      exact new row hrow same

/-- The url is there twice, under a negative key as text and under zero as bytes. With a key left
    its insertion is a conflict, and that of the text in another case is none; once the last key is
    used, all insertions fail alike. In memory a url that was inserted is a conflict as well. -/
theorem insert_conflicts_iff_beside_blobs :
    let rows : List Row := [⟨-7, .ofUrl "http://a.b/"⟩, ⟨0, .blob "http://a.b/".toByteArray⟩]
    let table : Backing := .database ⟨⟨some ⟨rows, 0⟩⟩, .ready⟩
    let full : Backing := .database ⟨⟨some ⟨rows, maxKey⟩⟩, .ready⟩
    let memory : Backing := .memory ⟨[("", ⟨1⟩)], [(⟨1⟩, "")], ⟨2⟩, []⟩
    (table.Reachable ∧ table.Works ∧ full.Reachable ∧ full.Works ∧ memory.Reachable) ∧
    (store.answer (.insert "http://a.b/") table).1 = .error ⟨.conflict, "http://a.b/"⟩ ∧
    (store.answer (.insert "http://A.b/") table).1 ≠ .error ⟨.conflict, "http://A.b/"⟩ ∧
    store.answer (.insert "http://a.b/") full = (.error SqlError.full.failure, full) ∧
    (store.answer (.insert "") memory).1 = .error ⟨.conflict, ""⟩ := by
  intro rows table full memory
  let steps : List Step :=
    [.ensureTable, .plant (-7) (.ofUrl "http://a.b/"), .plant 0 (.blob "http://a.b/".toByteArray)]
  have reachable : table.Reachable := by
    refine ⟨_, .ofText "", steps, .inr rfl, ?_, by decide +kernel⟩
    simp [steps, Step.IsSigned, maxKey]
  have reachable' : full.Reachable := by
    refine ⟨_, .ofText "", steps ++ [.plant maxKey (.blob .empty), .delete maxKey], .inr rfl, ?_,
      by decide +kernel⟩
    simp [steps, Step.IsSigned, maxKey]
  have reachable'' : memory.Reachable := by
    refine ⟨_, .ofText "", [.ask (.insert ""), .make "a.b"], .inl rfl, ?_, by decide +kernel⟩
    simp [Step.IsSigned]
  refine ⟨⟨reachable, ⟨rfl, rfl⟩, reachable', ⟨rfl, rfl⟩, reachable''⟩, ?_, ?_, ?_, ?_⟩
  · refine (insert_conflicts_iff reachable ⟨rfl, rfl⟩ _).1.mpr ⟨⟨_, rfl, ?_⟩, ?_⟩
    · exact ⟨_, List.mem_cons_self, rfl⟩
    · rintro t ⟨⟩
      decide
  · intro conflict
    obtain ⟨⟨t, ht, row, hrow, same⟩, -⟩ :=
      (insert_conflicts_iff reachable ⟨rfl, rfl⟩ _).1.mp conflict
    cases ht
    have other : ∀ row ∈ rows, row.cell ≠ .ofUrl "http://A.b/" := by decide +kernel
    exact other row hrow same
  · refine (insert_conflicts_iff reachable' ⟨rfl, rfl⟩ _).2.2 fun left => ?_
    exact absurd (left _ rfl) (by decide)
  · exact (insert_conflicts_iff reachable'' trivial _).1.mpr ⟨⟨⟨1⟩, List.mem_cons_self⟩, trivial⟩

/-- That a url is there is not enough for a conflict: its row was inserted, then a row was planted
    under the last key. -/
theorem conflict_is_missed :
    ¬ ∀ b : Backing, b.Reachable → b.Works → ∀ url,
      ((store.answer (.insert url) b).1 = .error ⟨.conflict, url⟩ ↔ b.Stores url) := by
  intro always
  let rows : List Row := [⟨1, .ofUrl "http://a.b/"⟩, ⟨maxKey, .ofUrl "http://c.d/"⟩]
  have reachable : (database ⟨⟨some ⟨rows, maxKey⟩⟩, .ready⟩).Reachable := by
    refine ⟨_, .ofText "", [.ensureTable, .ask (.insert "http://a.b/"),
      .plant maxKey (.ofUrl "http://c.d/")], .inr rfl, ?_, by decide +kernel⟩
    simp [Step.IsSigned, maxKey]
  have there : (database ⟨⟨some ⟨rows, maxKey⟩⟩, .ready⟩).Stores "http://a.b/" :=
    ⟨_, rfl, _, List.mem_cons_self, rfl⟩
  have conflict := (always _ reachable ⟨rfl, rfl⟩ "http://a.b/").mpr there
  exact absurd conflict (by decide +kernel)

end Backing

end LinkLedger
