import LinkLedger.Proofs.Store.Lawful
import LinkLedger.Store.Disk

/-!
# Opening a file again

Whether the file that a url names can be opened depends on the url and on the directories of the
disk (`Disk.Admits`), and how it may be accessed depends on the url. Putting a database back changes
neither. So **a file that was opened can be opened again, for the same access, and holds what was
put back** (`Disk.openDatabase_save`).
-/

set_option autoImplicit false

namespace LinkLedger

/-! ## Making the table -/

namespace Pool

variable {p made : Pool}

/-- Where there is a table, none is made. -/
theorem ensureTable_of_table (works : p.obstacle? = none) (there : p.database.table.isSome = true) :
    p.ensureTable = (.ok (), p) := by
  simp [ensureTable, reading, works, there]

/-- Where there is none, it is made, if writing is allowed. -/
theorem ensureTable_ready (d : Database) :
    ensureTable ⟨d, .ready⟩ = (.ok (), ⟨d.ensureTable, .ready⟩) := by
  obtain ⟨_ | t⟩ := d <;> rfl

theorem of_ensureTable_eq_ok (h : p.ensureTable = (.ok (), made)) :
    made.obstacle? = none ∧ made.access = p.access ∧ made.database.table.isSome = true := by
  unfold ensureTable at h
  by_cases there : p.database.table.isSome = true
  · rw [if_pos there] at h
    obtain ⟨read, rfl⟩ := Prod.mk.inj h
    exact ⟨(of_reading_eq_ok read).1, rfl, there⟩
  · rw [if_neg there] at h
    obtain ⟨database, access⟩ := p
    cases access with
    | ready =>
      cases h
      exact ⟨rfl, rfl, rfl⟩
    | readOnly => cases h
    | held => cases h
    | closed => cases h

end Pool

/-! ## Finding the file -/

/-- How a url lets a database be accessed. -/
def DatabaseUrl.access (url : DatabaseUrl) : Access := if url.readOnly then .readOnly else .ready

theorem DatabaseUrl.ite_readOnly (url : DatabaseUrl) :
    (if url.readOnly then .readOnly else .ready) = url.access := rfl

theorem DatabaseUrl.obstacle?_access (url : DatabaseUrl) (d : Database) :
    Pool.obstacle? ⟨d, url.access⟩ = none := by
  unfold access
  split <;> rfl

namespace Disk

/-- A url names a file by a path under which a file can be, and does not promise that the file never
    changes. -/
structure Admits (d : Disk) (url : DatabaseUrl) (text : String) : Prop where
  place : url.place = .file text
  named : text ≠ ""
  noNul : '\x00' ∉ text.toList
  mayHold : d.mayHold text = true
  mutable : ¬ url.immutable = true

variable {d : Disk} {url : DatabaseUrl} {text : String} {opened : Opened} {path : FilePath}

theorem Admits.save (h : d.Admits url text) (opened : Opened) :
    (d.save opened).Admits url text := by
  have same : (d.save opened).directories = d.directories := by
    unfold Disk.save
    split <;> rfl
  refine ⟨h.place, h.named, h.noNul, ?_, h.mutable⟩
  simpa only [Disk.mayHold, same] using h.mayHold

/-- A file that is there is found as it is. -/
theorem Admits.connect (h : d.Admits url text) {database : Database}
    (there : d.file? (.ofText text) = some database) :
    d.connect url = .ok ⟨⟨database, url.access⟩, some (.ofText text)⟩ := by
  simp only [Disk.connect, DatabaseUrl.ite_readOnly]
  split
  · next memory => cases memory.symm.trans h.place
  · next nameless =>
    cases nameless.symm.trans h.place
    exact absurd rfl h.named
  · next file =>
    cases file.symm.trans h.place
    simp [h.noNul, h.mayHold, there, h.mutable]

/-- A file that is missing is made. -/
theorem Admits.connect_new (h : d.Admits url text) (writable : url.readOnly = false)
    (missing : d.file? (.ofText text) = none) :
    d.connect url = .ok ⟨⟨.empty, .ready⟩, some (.ofText text)⟩ := by
  simp only [Disk.connect]
  split
  · next memory => cases memory.symm.trans h.place
  · next nameless =>
    cases nameless.symm.trans h.place
    exact absurd rfl h.named
  · next file =>
    cases file.symm.trans h.place
    simp [h.noNul, h.mayHold, missing, h.mutable, writable]

/-- A database that is kept in a file is kept in the file that the url names. -/
theorem admits_of_connect (h : d.connect url = .ok opened) (inFile : opened.file = some path) :
    ∃ text, d.Admits url text ∧ path = .ofText text ∧ opened.pool.access = url.access := by
  simp only [connect, DatabaseUrl.ite_readOnly] at h
  split at h
  · cases h
    cases inFile
  · cases h
    cases inFile
  · next text named place =>
    refine ⟨text, ?_⟩
    by_cases noNul : text.toList.contains '\x00' = true
    · rw [if_pos noNul] at h
      cases h
    by_cases mayHold : d.mayHold text = true
    · have admits : ¬ url.immutable = true → d.Admits url text :=
        fun mutable => ⟨place, named, by simpa using noNul, mayHold, mutable⟩
      rw [if_neg noNul, if_neg (by simp [mayHold])] at h
      -- A file that is missing is made, unless the url forbids it.
      split at h
      · split at h
        · cases h
        · split at h
          · cases h
          · next mutable =>
            cases h
            cases inFile
            exact ⟨admits mutable, rfl, rfl⟩
      · split at h
        · cases h
        · next mutable =>
          cases h
          cases inFile
          exact ⟨admits mutable, rfl, rfl⟩
    · rw [if_neg noNul, if_pos (by simp [mayHold])] at h
      cases h

/-- What is put back is found again. -/
theorem file?_save (d : Disk) (p : Pool) (path : FilePath) :
    (d.save ⟨p, some path⟩).file? path = some p.database := by
  simp [save, file?]

/-! ## Opening -/

theorem openDatabase_eq_ok_iff {url : String} :
    d.openDatabase url = .ok opened ↔ ∃ target, DatabaseUrl.parse url = .ok target ∧
      (target.fileSystem.bind fun name => if fileSystems.contains name then none else some name) =
        none ∧
      ∃ found, d.connect target = .ok found ∧
        found.pool.ensureTable = (.ok (), opened.pool) ∧ opened.file = found.file := by
  unfold openDatabase
  cases parsed : DatabaseUrl.parse url with
  | error fault => simp
  | ok target =>
    cases unknown : target.fileSystem.bind fun name =>
        if fileSystems.contains name then none else some name with
    | some name => simp only [unknown, Except.ok.injEq, reduceCtorEq, exists_eq_left', false_and]
    | none =>
      simp only [unknown, Pool.outcome_eq_ok_iff, Except.ok.injEq, exists_eq_left', true_and]
      cases connected : d.connect target with
      | error e => simp [bind, Except.bind]
      | ok found =>
        obtain ⟨⟨made, pool⟩, ensured⟩ : ∃ made, found.pool.ensureTable = made := ⟨_, rfl⟩
        obtain ⟨pool', file'⟩ := opened
        cases made with
        | error e => simp [bind, Except.bind, ensured]
        | ok _ => simp [bind, Except.bind, ensured, pure, Except.pure, eq_comm]

/-- Under a path where a file can be, a database is opened for reading and writing, with what is in
    the file if there is one. -/
theorem Admits.openDatabase (h : d.Admits url text) {source : String}
    (parsed : DatabaseUrl.parse source = .ok url) (writable : url.readOnly = false)
    (usual : url.fileSystem = none) :
    d.openDatabase source =
      .ok ⟨⟨((d.file? (.ofText text)).getD .empty).ensureTable, .ready⟩, some (.ofText text)⟩ := by
  have ready : url.access = .ready := by simp [DatabaseUrl.access, writable]
  refine openDatabase_eq_ok_iff.mpr ⟨url, parsed, by simp [usual], ?_⟩
  cases there : d.file? (.ofText text) with
  | none => exact ⟨_, h.connect_new writable there, Pool.ensureTable_ready _, rfl⟩
  | some database =>
    refine ⟨_, h.connect there, ?_, rfl⟩
    rw [ready]
    exact Pool.ensureTable_ready database

/-- An opened database has the table, and connections to it. -/
theorem table_of_openDatabase {url : String} (h : d.openDatabase url = .ok opened) :
    opened.pool.obstacle? = none ∧ opened.pool.database.table.isSome = true := by
  obtain ⟨target, -, -, found, -, ensured, -⟩ := openDatabase_eq_ok_iff.mp h
  obtain ⟨works, -, table⟩ := Pool.of_ensureTable_eq_ok ensured
  exact ⟨works, table⟩

/-- **A file that was opened can be opened again**, and holds what was put back. -/
theorem openDatabase_save {url : String} (h : d.openDatabase url = .ok opened)
    (inFile : opened.file = some path) {p : Pool} (table : p.database.table.isSome = true)
    (access : p.access = opened.pool.access) :
    (d.save ⟨p, some path⟩).openDatabase url = .ok ⟨p, some path⟩ := by
  obtain ⟨target, parsed, known, found, connected, ensured, file⟩ := openDatabase_eq_ok_iff.mp h
  obtain ⟨text, admits, rfl, foundAccess⟩ := admits_of_connect connected (file.symm.trans inFile)
  have again : (d.save ⟨p, some (.ofText text)⟩).connect target =
      .ok ⟨⟨p.database, target.access⟩, some (.ofText text)⟩ :=
    (admits.save _).connect (d.file?_save p _)
  have same : (⟨p.database, target.access⟩ : Pool) = p := by
    obtain ⟨-, kept, -⟩ := Pool.of_ensureTable_eq_ok ensured
    rw [← foundAccess, ← kept, ← access]
  refine openDatabase_eq_ok_iff.mpr ⟨target, parsed, known, _, again, ?_, rfl⟩
  rw [same]
  refine Pool.ensureTable_of_table ?_ table
  rw [← same]
  exact target.obstacle?_access p.database

end Disk

end LinkLedger
