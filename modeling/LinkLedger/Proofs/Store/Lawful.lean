import LinkLedger.Proofs.Store.Rows

/-!
# The law of the table

Rows can be put into the table and taken out of it by hand, so a table need not keep any ledger:
keys may be negative or far apart, and a cell need not hold a url. What no statement can break is
the law of the table (`Table.Lawful`): no key and no cell stands in it twice, and no key is beyond
the last one, which is a signed word. `Table.insert_cases` lists what an insertion can come to, and
each statement keeps the law.

**On a lawful table a look-up finds a link exactly if the row of that link is there**
(`Pool.findByUrl_eq_some_iff`, `Pool.get_eq_some_iff`), and the key that an insertion takes is free
and is an id.
-/

set_option autoImplicit false

namespace LinkLedger

/-! ## Cells that hold no url -/

/-- A cell that holds no url: bytes, or text that is not written in UTF-8. -/
def Cell.IsUnreadable : Cell → Prop
  | .blob _ => True
  | .text bytes => ¬ bytes.IsValidUTF8

instance : DecidablePred Cell.IsUnreadable
  | .blob _ => isTrue trivial
  | .text bytes => inferInstanceAs (Decidable ¬ bytes.IsValidUTF8)

theorem Cell.url_eq_ok_iff {cell : Cell} {url : String} :
    cell.url = .ok url ↔ cell = .ofUrl url := by
  constructor
  · intro h
    cases cell with
    | blob bytes => cases h
    | text bytes =>
      by_cases valid : bytes.IsValidUTF8
      · simp only [Cell.url, String.fromUTF8?, dif_pos valid, Except.ok.injEq] at h
        rw [← h]
        rfl
      · simp [Cell.url, String.fromUTF8?, valid] at h
  · rintro rfl
    exact Cell.url_ofUrl url

theorem Cell.IsUnreadable.url_eq {cell : Cell} (h : cell.IsUnreadable) :
    ∃ e, cell.url = .error e ∧ e.failure.kind = .invalidData := by
  cases cell with
  | blob bytes => exact ⟨_, rfl, rfl⟩
  | text bytes =>
    have invalid : ¬ bytes.IsValidUTF8 := h
    simp [Cell.url, String.fromUTF8?, invalid, SqlError.failure]

theorem Link.row_eq {link : Link} {row : Row} (hkey : row.key = link.id.word.toNat)
    (hcell : row.cell = .ofUrl link.url) : link.row = row := by
  rw [Link.row, ← hkey, ← hcell]

/-! ## Columns without duplicates -/

section

variable {β : Type} {column : Row → β} {rows : List Row} {row : Row}

theorem find?_column_eq_some_iff [DecidableEq β] {b : β} (unique : (rows.map column).Nodup) :
    rows.find? (fun row => column row = b) = some row ↔ row ∈ rows ∧ column row = b := by
  constructor
  · intro found
    exact ⟨List.mem_of_find?_eq_some found, by simpa using List.find?_some found⟩
  · rintro ⟨hmem, rfl⟩
    cases found : rows.find? fun other => column other = column row with
    | none => exact absurd (List.find?_eq_none.mp found row hmem) (by simp)
    | some other =>
      have same : column other = column row := by simpa using List.find?_some found
      rw [List.inj_on_of_nodup_map unique (List.mem_of_find?_eq_some found) hmem same]

theorem nodup_column_concat (unique : (rows.map column).Nodup)
    (new : ∀ other ∈ rows, column other ≠ column row) : ((rows ++ [row]).map column).Nodup := by
  rw [List.map_append, List.map_singleton, ← List.concat_eq_append]
  refine unique.concat fun hmem => ?_
  obtain ⟨other, hother, same⟩ := List.mem_map.mp hmem
  exact new other hother same

end

theorem LinkId.eq_of_key? {id : LinkId} {key : Int} (h : id.key? = some key) :
    key = id.word.toNat := by
  unfold key? at h
  split at h
  · exact (Option.some.inj h).symm
  · cases h

/-- A key that is a signed word is an id, or it is negative. -/
theorem LinkId.ofKey_eq_ok_iff {key : Int} {id : LinkId} (word : key ≤ maxKey) :
    LinkId.ofKey key = .ok id ↔ key = id.word.toNat := by
  constructor
  · intro h
    by_cases negative : key < 0
    · simp [ofKey, negative] at h
    · have small : key.toNat < UInt64.size := by
        simp only [maxKey, UInt64.size] at *
        omega
      simp only [ofKey, if_neg negative, Except.ok.injEq] at h
      rw [← h, UInt64.toNat_ofNat_of_lt' small]
      omega
  · rintro rfl
    rw [ofKey_natCast, ofNat_toNat]

namespace Table

/-! ## The law -/

/-- No key and no cell stands in the table twice, and every key is at most the last, which is a
    signed word. -/
structure Lawful (t : Table) : Prop where
  keys_nodup : (t.rows.map Row.key).Nodup
  cells_nodup : (t.rows.map Row.cell).Nodup
  key_le : ∀ row ∈ t.rows, row.key ≤ t.lastKey
  lastKey_le : t.lastKey ≤ maxKey

theorem lawful_empty : empty.Lawful := ⟨by decide, by decide, by simp [empty], by decide⟩

variable {t : Table} {key : Int} {cell : Cell} {row : Row}

theorem byKey?_eq_none_iff : t.byKey? key = none ↔ ∀ row ∈ t.rows, row.key ≠ key := by
  simp [byKey?]

theorem byCell?_eq_none_iff : t.byCell? cell = none ↔ ∀ row ∈ t.rows, row.cell ≠ cell := by
  simp [byCell?]

theorem push_lastKey_succ (t : Table) (cell : Cell) :
    t.push (t.lastKey + 1) cell = ⟨t.rows ++ [⟨t.lastKey + 1, cell⟩], t.lastKey + 1⟩ := by
  have last : max t.lastKey (t.lastKey + 1 : Int).toNat = t.lastKey + 1 := by omega
  rw [push, last]

theorem toNat_next (room : t.lastKey < maxKey) :
    (LinkId.ofNat (t.lastKey + 1)).word.toNat = t.lastKey + 1 :=
  LinkId.toNat_ofNat (by simp only [maxKey, idCount] at *; omega)

/-- **What an insertion can come to**: no key is left, the cell is there, or a row is added under
    the next key. -/
theorem insert_cases (t : Table) (cell : Cell) :
    (maxKey ≤ t.lastKey ∧ t.insert cell = (.error .full, t)) ∨
    (t.lastKey < maxKey ∧ (∃ row ∈ t.rows, row.cell = cell) ∧
      t.insert cell = (.error (.notUnique "permalink"), t)) ∨
    (t.lastKey < maxKey ∧ (∀ row ∈ t.rows, row.cell ≠ cell) ∧
      t.insert cell = (.ok (t.lastKey + 1), t.push (t.lastKey + 1) cell)) := by
  unfold insert
  by_cases full : maxKey ≤ t.lastKey
  · exact .inl ⟨full, if_pos full⟩
  · rw [if_neg full]
    have room : t.lastKey < maxKey := Nat.not_le.mp full
    cases found : t.byCell? cell with
    | some row =>
      have same : row.cell = cell := by simpa using List.find?_some found
      exact .inr (.inl ⟨room, ⟨row, List.mem_of_find?_eq_some found, same⟩, rfl⟩)
    | none => exact .inr (.inr ⟨room, byCell?_eq_none_iff.mp found, rfl⟩)

namespace Lawful

theorem byKey?_eq_some_iff (h : t.Lawful) :
    t.byKey? key = some row ↔ row ∈ t.rows ∧ row.key = key :=
  find?_column_eq_some_iff h.keys_nodup

theorem byCell?_eq_some_iff (h : t.Lawful) :
    t.byCell? cell = some row ↔ row ∈ t.rows ∧ row.cell = cell :=
  find?_column_eq_some_iff h.cells_nodup

theorem key_le_maxKey (h : t.Lawful) (hmem : row ∈ t.rows) : row.key ≤ maxKey := by
  have := h.key_le row hmem
  have := h.lastKey_le
  omega

theorem key_ne_succ (h : t.Lawful) (hmem : row ∈ t.rows) : row.key ≠ t.lastKey + 1 := by
  have := h.key_le row hmem
  omega

/-! ## Statements keep the law -/

theorem push (h : t.Lawful) (newKey : ∀ row ∈ t.rows, row.key ≠ key)
    (newCell : ∀ row ∈ t.rows, row.cell ≠ cell) (word : key ≤ maxKey) :
    (t.push key cell).Lawful where
  keys_nodup := nodup_column_concat h.keys_nodup newKey
  cells_nodup := nodup_column_concat h.cells_nodup newCell
  key_le := by
    intro row hrow
    simp only [Table.push] at hrow ⊢
    rcases List.mem_append.mp hrow with old | new
    · have := h.key_le row old
      omega
    · rw [List.mem_singleton.mp new]
      dsimp only
      omega
  lastKey_le := by
    have := h.lastKey_le
    simp only [Table.push]
    omega

theorem insert (h : t.Lawful) (cell : Cell) : (t.insert cell).2.Lawful := by
  obtain ⟨-, answer⟩ | ⟨-, -, answer⟩ | ⟨room, new, answer⟩ := t.insert_cases cell
  · rwa [answer]
  · rwa [answer]
  · rw [answer]
    exact h.push (fun row => h.key_ne_succ) new (by omega)

theorem plant (h : t.Lawful) (word : key ≤ maxKey) (cell : Cell) :
    (t.plant key cell).2.Lawful := by
  unfold Table.plant
  cases hkey : t.byKey? key with
  | some row => exact h
  | none =>
    cases hcell : t.byCell? cell with
    | some row => exact h
    | none => exact h.push (byKey?_eq_none_iff.mp hkey) (byCell?_eq_none_iff.mp hcell) word

theorem delete (h : t.Lawful) (key : Int) : (t.delete key).Lawful where
  keys_nodup := h.keys_nodup.sublist (List.filter_sublist.map _)
  cells_nodup := h.cells_nodup.sublist (List.filter_sublist.map _)
  -- A key that was used stays used, so the last key is still the last.
  key_le row hrow := h.key_le row (List.mem_of_mem_filter hrow)
  lastKey_le := h.lastKey_le

end Lawful

end Table

/-! ## Databases -/

def Database.Lawful (d : Database) : Prop := ∀ t, d.table = some t → t.Lawful

namespace Database

theorem lawful_empty : empty.Lawful := nofun

variable {d : Database}

theorem Lawful.ensureTable (h : d.Lawful) : d.ensureTable.Lawful := by
  rintro t ⟨⟩
  cases ht : d.table with
  | none => exact Table.lawful_empty
  | some t => exact h t ht

theorem lawful_dropTable (d : Database) : d.dropTable.Lawful := nofun

theorem Lawful.writing {α : Type} (h : d.Lawful) {statement : Table → Except SqlError α × Table}
    (keeps : ∀ t, t.Lawful → (statement t).2.Lawful) : (d.writing statement).2.Lawful := by
  unfold Database.writing
  cases ht : d.table with
  | none => exact h
  | some t =>
    rintro after ⟨⟩
    exact keeps t (h t ht)

theorem of_reading_eq_ok {α : Type} {statement : Table → Except SqlError α} {a : α}
    (h : d.reading statement = .ok a) : ∃ t, d.table = some t ∧ statement t = .ok a := by
  unfold reading at h
  split at h
  · cases h
  · exact ⟨_, ‹_›, h⟩

end Database

/-! ## Behind connections -/

namespace Pool

theorem outcome_eq_ok_iff {α : Type} {result : Except SqlError α} {a : α} :
    outcome result = .ok a ↔ result = .ok a := by
  cases result <;> simp [outcome]

theorem of_reading_eq_ok {α : Type} {p : Pool} {statement : Database → Except SqlError α} {a : α}
    (h : p.reading statement = .ok a) : p.obstacle? = none ∧ statement p.database = .ok a := by
  unfold reading at h
  split at h
  · cases h
  · exact ⟨‹_›, h⟩

theorem lawful_writing {α : Type} {p : Pool} (h : p.database.Lawful)
    {statement : Database → Except SqlError α × Database}
    (keeps : ∀ d : Database, d.Lawful → (statement d).2.Lawful) :
    (p.writing statement).2.database.Lawful := by
  unfold writing
  cases p.writeObstacle? with
  | some e => exact h
  | none => exact keeps _ h

theorem lawful_ensureTable {p : Pool} (h : p.database.Lawful) :
    p.ensureTable.2.database.Lawful := by
  unfold ensureTable
  split
  · exact h
  · exact lawful_writing h fun d hd => hd.ensureTable

theorem insert_state (p : Pool) (url : String) :
    (p.insert url).2 = (p.writing fun d => d.insert url).2 := by
  unfold insert
  generalize (p.writing fun d => d.insert url) = written
  obtain ⟨inserted, after⟩ := written
  cases inserted with
  | ok key => rfl
  | error e => cases e <;> rfl

theorem lawful_answer (call : Call) (p : Pool) (h : p.database.Lawful) :
    (store.answer call p).2.database.Lawful := by
  cases call with
  | findByUrl url => exact h
  | get id => exact h
  | insert url =>
    show (p.insert url).2.database.Lawful
    rw [insert_state]
    exact lawful_writing h fun d hd => hd.writing fun t ht => ht.insert _

/-- **What an insertion over a working connection can come to**: no key is left, the url is there,
    or its row is added under the next key. -/
theorem insert_cases_of_works {p : Pool} (works : p.writeObstacle? = none) {t : Table}
    (table : p.database.table = some t) (url : String) :
    (maxKey ≤ t.lastKey ∧ p.insert url = (.error SqlError.full.failure, p)) ∨
    (t.lastKey < maxKey ∧ (∃ row ∈ t.rows, row.cell = .ofUrl url) ∧
      p.insert url = (.error ⟨.conflict, url⟩, p)) ∨
    (t.lastKey < maxKey ∧ (∀ row ∈ t.rows, row.cell ≠ .ofUrl url) ∧
      p.insert url = (.ok (.ofNat (t.lastKey + 1)),
        ⟨⟨some ⟨t.rows ++ [⟨t.lastKey + 1, .ofUrl url⟩], t.lastKey + 1⟩⟩, p.access⟩)) := by
  obtain ⟨⟨_⟩, access⟩ := p
  cases table
  have key : LinkId.ofKey ((t.lastKey : Int) + 1) = .ok (.ofNat (t.lastKey + 1)) :=
    LinkId.ofKey_natCast
  simp only [insert, writing, works, Database.insert, Database.writing]
  obtain ⟨full, answer⟩ | ⟨room, there, answer⟩ | ⟨room, new, answer⟩ :=
    t.insert_cases (.ofUrl url)
  · rw [answer]
    exact .inl ⟨full, rfl⟩
  · rw [answer]
    exact .inr (.inl ⟨room, there, rfl⟩)
  · rw [answer, t.push_lastKey_succ]
    refine .inr (.inr ⟨room, new, ?_⟩)
    dsimp only
    rw [key]
    rfl

/-- **An insertion fails and changes nothing, or adds one row under the next key.** The key of the
    row is an id in either case, so no failure comes after a row was added. -/
theorem insert_cases (p : Pool) (url : String) :
    (∃ failure, p.insert url = (.error failure, p) ∧ failure.kind ≠ .invalidData) ∨
    ∃ t, p.database.table = some t ∧ t.lastKey < maxKey ∧ p.obstacle? = none ∧
      p.insert url = (.ok (.ofNat (t.lastKey + 1)),
        ⟨⟨some ⟨t.rows ++ [⟨t.lastKey + 1, .ofUrl url⟩], t.lastKey + 1⟩⟩, p.access⟩) := by
  obtain ⟨⟨table⟩, access⟩ := p
  cases access with
  | readOnly => exact .inl ⟨_, rfl, nofun⟩
  | held => exact .inl ⟨_, rfl, nofun⟩
  | closed => exact .inl ⟨_, rfl, nofun⟩
  | ready =>
    cases table with
    | none => exact .inl ⟨_, rfl, nofun⟩
    | some t =>
      obtain ⟨-, answer⟩ | ⟨-, -, answer⟩ | ⟨room, -, answer⟩ :=
        insert_cases_of_works (p := ⟨⟨some t⟩, .ready⟩) rfl rfl url
      · exact .inl ⟨_, answer, nofun⟩
      · exact .inl ⟨_, answer, nofun⟩
      · exact .inr ⟨t, rfl, room, rfl, answer⟩

/-! ## Look-ups -/

section

variable {p : Pool} {t : Table} (works : p.obstacle? = none) (table : p.database.table = some t)
  (law : t.Lawful)

include works table law

/-- **What a look-up by id can come to**: no row has that key, or the row that has it is read. -/
theorem get_cases (id : LinkId) :
    ((∀ row ∈ t.rows, row.key ≠ id.word.toNat) ∧ p.get id = .ok none) ∨
    ∃ row ∈ t.rows, row.key = id.word.toNat ∧
      p.get id = row.cell.url.map fun url => some ⟨id, url⟩ := by
  unfold get LinkId.key?
  by_cases small : id.word.toNat ≤ maxKey
  · simp only [if_pos small, reading, works, Database.get?, Database.reading, table]
    cases found : t.byKey? id.word.toNat with
    | none => exact .inl ⟨Table.byKey?_eq_none_iff.mp found, rfl⟩
    | some row =>
      obtain ⟨hmem, hkey⟩ := law.byKey?_eq_some_iff.mp found
      exact .inr ⟨row, hmem, hkey, rfl⟩
  · -- The id is beyond every key, so the table need not be asked.
    rw [if_neg small]
    refine .inl ⟨fun row hrow => ?_, rfl⟩
    have := law.key_le_maxKey hrow
    omega

theorem get_eq_none_iff (id : LinkId) :
    p.get id = .ok none ↔ ∀ row ∈ t.rows, row.key ≠ id.word.toNat := by
  obtain ⟨absent, answer⟩ | ⟨row, hrow, hkey, answer⟩ := get_cases works table law id
  · exact iff_of_true answer absent
  · refine iff_of_false (fun none => ?_) fun absent => absent row hrow hkey
    rw [answer] at none
    cases hurl : row.cell.url <;> simp [hurl, Except.map] at none

/-- **A link is found by id exactly if its row is there.** -/
theorem get_eq_some_iff (id : LinkId) (link : Link) :
    p.get id = .ok (some link) ↔ link.id = id ∧ link.row ∈ t.rows := by
  obtain ⟨absent, answer⟩ | ⟨row, hrow, hkey, answer⟩ := get_cases works table law id
  · rw [answer]
    refine iff_of_false nofun ?_
    rintro ⟨rfl, hmem⟩
    exact absent _ hmem rfl
  · rw [answer]
    constructor
    · intro found
      cases hurl : row.cell.url with
      | error e => simp [hurl, Except.map] at found
      | ok url =>
        simp only [hurl, Except.map, Except.ok.injEq, Option.some.injEq] at found
        subst found
        refine ⟨rfl, ?_⟩
        rwa [Link.row_eq hkey (Cell.url_eq_ok_iff.mp hurl)]
    · rintro ⟨rfl, hmem⟩
      have same : row = link.row := List.inj_on_of_nodup_map law.keys_nodup hrow hmem hkey
      rw [same, Link.row, Cell.url_ofUrl]
      rfl

/-- **And by url as well.** -/
theorem findByUrl_eq_some_iff (id : LinkId) (url : String) :
    p.findByUrl url = .ok (some id) ↔ (Link.mk id url).row ∈ t.rows := by
  simp only [findByUrl, reading, works, Database.idOf?, Database.reading, table]
  cases found : t.byCell? (.ofUrl url) with
  | none =>
    have absent := Table.byCell?_eq_none_iff.mp found
    exact iff_of_false (by simp) fun hmem => absent _ hmem rfl
  | some row =>
    obtain ⟨hmem, hcell⟩ := law.byCell?_eq_some_iff.mp found
    have read : (LinkId.ofKey row.key).map some = .ok (some id) ↔ row.key = id.word.toNat := by
      rw [← LinkId.ofKey_eq_ok_iff (law.key_le_maxKey hmem)]
      cases LinkId.ofKey row.key <;> simp [Except.map]
    refine read.trans ⟨fun hkey => ?_, fun hrow => ?_⟩
    · rwa [Link.row_eq hkey hcell]
    · have same := List.inj_on_of_nodup_map law.cells_nodup hmem hrow hcell
      rw [same, Link.row]

end

end Pool

end LinkLedger
