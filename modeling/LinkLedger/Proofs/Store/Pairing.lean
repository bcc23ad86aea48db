import LinkLedger.Proofs.Store.Additions

/-!
# Ids and urls go in pairs

Whatever was done to what keeps the links left it regular (`Backing.Regular`): the table is lawful,
the indexes are numbered. Then no key and no cell stands in two rows, so **of two links that are kept,
the ids are the same exactly if the urls are** (`Backing.Regular.id_eq_iff`). In memory that takes
ids: they are words, and after the last word they begin again.

What is found by url is kept (`Backing.Regular.row_of_found`), and it stays as long as no rows are
taken away (`Session.hasRow_run`).
-/

set_option autoImplicit false

namespace LinkLedger

/-- A step that takes no rows away. -/
def Step.SparesRows : Step → Prop
  | .delete _ | .dropTable => False
  | _ => True

namespace Backing

/-- What keeps the links is as a session leaves it. -/
structure Regular (b : Backing) : Prop where
  lawful : b.Lawful
  numbered : b.Numbered

/-- In memory there are fewer links than words, so that no id was given out twice. On a table the
    keys run out instead. -/
def HasWordsLeft (b : Backing) : Prop := ∀ m, b = memory m → m.size < idCount

instance : DecidablePred HasWordsLeft
  | memory m => decidable_of_iff (m.size < idCount) ⟨by rintro few _ ⟨⟩; exact few, (· m rfl)⟩
  | database _ | closedServer => isTrue nofun

theorem Reachable.regular {b : Backing} (h : b.Reachable) : b.Regular where
  lawful := h.lawful
  numbered := by
    rintro m rfl
    exact h.numbered

theorem regular_answer (call : Call) (b : Backing) (h : b.Regular) :
    (store.answer call b).2.Regular :=
  ⟨lawful_answer call b h.lawful, numbered_answer call b h.numbered⟩

theorem Regular.work {b : Backing} (h : b.Regular) {step : Step} (signed : step.IsSigned) :
    (step.work b).Regular :=
  ⟨h.lawful.work signed, h.numbered.work step⟩

/-! ## Rows in pairs -/

namespace Regular

variable {b : Backing}

theorem keys_nodup (h : b.Regular) (words : b.HasWordsLeft) : (b.rows.map Row.key).Nodup := by
  cases b with
  | memory m =>
    obtain ⟨holds, coherent⟩ := h.numbered m rfl
    have few : m.ledger.size < idCount := holds.size_eq ▸ words m rfl
    have ids : (m.ledger.links.map Link.id).Nodup := (coherent few).ids_nodup
    have keys : (memory m).rows.map Row.key =
        (m.ledger.links.map Link.id).map fun id => (id.word.toNat : Int) := by
      simp [rows, Link.row]
    rw [keys]
    refine ids.map fun id id' same => ?_
    rw [← id.ofNat_toNat, ← id'.ofNat_toNat, Int.ofNat_inj.mp same]
  | database p =>
    cases table : p.database.table with
    | none => simp [rows, table]
    | some t => simpa [rows, table] using (h.lawful t table).keys_nodup
  | closedServer => exact List.nodup_nil

theorem cells_nodup (h : b.Regular) : (b.rows.map Row.cell).Nodup := by
  cases b with
  | memory m =>
    have urls : m.ledger.urls.Nodup := (h.numbered m rfl).1.ledger_urls_nodup
    have cells : (memory m).rows.map Row.cell = m.ledger.urls.map Cell.ofUrl := by
      simp [rows, Link.row, Ledger.urls]
    rw [cells]
    exact urls.map fun url url' same => Cell.ofUrl_inj.mp same
  | database p =>
    cases table : p.database.table with
    | none => simp [rows, table]
    | some t => simpa [rows, table] using (h.lawful t table).cells_nodup
  | closedServer => exact List.nodup_nil

/-- **Of two links that are kept, the ids are the same exactly if the urls are.** -/
theorem id_eq_iff (h : b.Regular) (words : b.HasWordsLeft) {link link' : Link}
    (kept : link.row ∈ b.rows) (kept' : link'.row ∈ b.rows) :
    link.id = link'.id ↔ link.url = link'.url := by
  constructor
  · intro same
    have key : link.row.key = link'.row.key := by simp only [Link.row, same]
    have row := List.inj_on_of_nodup_map (h.keys_nodup words) kept kept' key
    exact Cell.ofUrl_inj.mp (congrArg Row.cell row)
  · intro same
    have cell : link.row.cell = link'.row.cell := by simp only [Link.row, same]
    have row := List.inj_on_of_nodup_map h.cells_nodup kept kept' cell
    have number : link.id.word.toNat = link'.id.word.toNat := Int.ofNat_inj.mp (congrArg Row.key row)
    rw [← link.id.ofNat_toNat, ← link'.id.ofNat_toNat, number]

/-- What is found by url is kept. -/
theorem row_of_found (h : b.Regular) {link : Link}
    (found : (store.answer (.findByUrl link.url) b).1 = .ok (some link.id)) :
    link.row ∈ b.rows := by
  cases b with
  | memory m =>
    have there : m.idOf? link.url = some link.id := Except.ok.inj found
    rw [(h.numbered m rfl).1.idOf?_eq] at there
    exact List.mem_map_of_mem (Ledger.mem_of_idOf?_eq_some there)
  | database p =>
    have looked : p.findByUrl link.url = .ok (some link.id) := Pool.outcome_eq_ok_iff.mp found
    obtain ⟨works, read⟩ := Pool.of_reading_eq_ok looked
    obtain ⟨t, table, -⟩ := Database.of_reading_eq_ok read
    have row : link.row ∈ t.rows :=
      (Pool.findByUrl_eq_some_iff works table (h.lawful t table) link.id link.url).mp looked
    simpa [rows, table] using row
  | closedServer => cases found

end Regular

/-! ## Rows that stay -/

theorem rows_subset_answer (call : Call) (b : Backing) :
    b.rows ⊆ (store.answer call b).2.rows := by
  cases call with
  | insert url =>
    rcases insert_fails_or_adds url b with ⟨failure, answer⟩ | ⟨id, after, answer, adds⟩
    · rw [answer]
      exact List.Subset.refl _
    · rw [answer, adds.rows_eq]
      exact List.subset_append_left _ _
  | findByUrl url => cases b <;> exact List.Subset.refl _
  | get id => cases b <;> exact List.Subset.refl _

theorem rows_subset_work {step : Step} (spares : step.SparesRows) (b : Backing) :
    b.rows ⊆ (step.work b).rows := by
  cases b with
  | memory m =>
    rw [step.work_memory]
    exact List.Subset.refl _
  | closedServer => cases step <;> exact List.Subset.refl _
  | database p =>
    obtain ⟨⟨table⟩, access⟩ := p
    cases step with
    | plant key cell =>
      cases table <;> cases access
      case some.ready t =>
        show t.rows ⊆ (t.plant key cell).2.rows
        unfold Table.plant
        split
        · exact List.Subset.refl _
        · exact List.Subset.refl _
        · exact List.subset_append_left _ _
      all_goals exact List.Subset.refl _
    | delete key => exact spares.elim
    | dropTable => exact spares.elim
    | ensureTable => cases table <;> cases access <;> exact List.Subset.refl _
    | reopen => cases table <;> exact List.Subset.refl _
    | _ => exact List.Subset.refl _

end Backing

/-- What keeps the links is regular, and the row is there. -/
structure Backing.HasRow (row : Row) (b : Backing) : Prop where
  regular : b.Regular
  mem_rows : row ∈ b.rows

theorem Backing.HasRow.answer {row : Row} (call : Call) (b : Backing) (h : b.HasRow row) :
    (store.answer call b).2.HasRow row :=
  ⟨regular_answer call b h.regular, rows_subset_answer call b h.mem_rows⟩

/-- A row stays as long as no rows are taken away. -/
theorem Session.hasRow_run {s : Session} {row : Row} {steps : List Step}
    (spares : ∀ step ∈ steps, step.IsSigned ∧ step.SparesRows) (h : s.backing.HasRow row) :
    (s.run steps).1.backing.HasRow row := by
  refine run_keeps Backing.HasRow.answer (fun step hstep b hb => ?_) h
  obtain ⟨signed, sparing⟩ := spares step hstep
  exact ⟨hb.regular.work signed, Backing.rows_subset_work sparing b hb.mem_rows⟩

end LinkLedger
