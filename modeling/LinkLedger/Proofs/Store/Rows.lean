import LinkLedger.Proofs.Store.Healthy
import LinkLedger.Store.Pool

/-!
# The table of links keeps a ledger

A table keeps a ledger if its rows are the links of the ledger, in order, with the ids as keys and
the urls as text, and if the largest key ever used is the one before the next id. If a key is left,
it holds the ledger.

**A table behind a ready connection is a healthy store** (`Pool.healthy`). The ids it gives out are
below `maxKey`: the key `maxKey` can be given out too, but a table that has used it no longer tells
a url that is there from one that is not, so such a table keeps its ledger and holds it no more.
-/

set_option autoImplicit false

namespace LinkLedger

/-! ## Rows and links -/

def Link.row (link : Link) : Row := ⟨link.id.word.toNat, .ofUrl link.url⟩

theorem Cell.ofUrl_inj {u v : String} : Cell.ofUrl u = Cell.ofUrl v ↔ u = v := by
  simp [Cell.ofUrl, String.toByteArray_inj]

theorem Cell.url_ofUrl (url : String) : (Cell.ofUrl url).url = .ok url := by
  have h : String.fromUTF8? url.toByteArray = some url := by
    rw [String.fromUTF8?, dif_pos url.isValidUTF8]
    exact congrArg some (String.toByteArray_inj.1 rfl)
  simp [Cell.url, Cell.ofUrl, h]

theorem LinkId.ofKey_natCast {n : Nat} : LinkId.ofKey (n : Int) = .ok (.ofNat n) := by
  have hpos : ¬ (n : Int) < 0 := by omega
  simp [LinkId.ofKey, hpos, LinkId.ofNat]

namespace Ledger

/-- In a coherent ledger it does not matter from which end an id is looked for. -/
theorem Coherent.find?_id {l : Ledger} {n : Nat} (h : l.Coherent n) (id : LinkId) :
    (l.links.find? fun link => link.id = id) = l.get? id := by
  cases hget : l.get? id with
  | none => simpa using get?_eq_none_iff.mp hget
  | some link =>
    obtain ⟨hmem, hid⟩ := mem_of_get?_eq_some hget
    cases hfind : l.links.find? fun link => link.id = id with
    | none => exact absurd hid (by simpa using List.find?_eq_none.mp hfind link hmem)
    | some link' =>
      have hid' : link'.id = id := by simpa using List.find?_some hfind
      have hmem' := List.mem_of_find?_eq_some hfind
      exact congrArg some
        (List.inj_on_of_nodup_map h.ids_nodup hmem' hmem (hid'.trans hid.symm))

end Ledger

namespace Table

/-- The rows are the links of the ledger, and the next id is the number after the last key. There
    may be no more keys. -/
structure Keeps (t : Table) (l : Ledger) : Prop where
  rows_eq : t.rows = l.links.map Link.row
  next_eq : l.next = .ofNat (t.lastKey + 1)
  lastKey_le : t.lastKey ≤ maxKey

/-- The rows are the links of the ledger, and the next key is its next id. -/
structure Holds (t : Table) (l : Ledger) : Prop where
  rows_eq : t.rows = l.links.map Link.row
  next_eq : l.next = .ofNat (t.lastKey + 1)
  lastKey_lt : t.lastKey < maxKey

theorem holds_empty : empty.Holds .empty where
  rows_eq := rfl
  next_eq := rfl
  lastKey_lt := by decide

theorem Holds.keeps {t : Table} {l : Ledger} (h : t.Holds l) : t.Keeps l :=
  ⟨h.rows_eq, h.next_eq, Nat.le_of_lt h.lastKey_lt⟩

namespace Keeps

variable {t : Table} {l : Ledger} {n : Nat}

theorem toNat_next (h : t.Keeps l) : l.next.word.toNat = t.lastKey + 1 := by
  have := h.lastKey_le
  rw [h.next_eq, LinkId.toNat_ofNat (by simp only [maxKey, idCount] at *; omega)]

/-- The number that comes next in the ledger is the one after the last key of the table. -/
theorem lastKey_succ_eq (h : t.Keeps l) (hl : l.Coherent n) : t.lastKey + 1 = n := by
  have hnext := h.toNat_next
  have hle := hl.le_count
  rw [hl.next_eq] at hnext
  by_cases hn : n < idCount
  · rw [LinkId.toNat_ofNat hn] at hnext
    exact hnext.symm
  · -- All ids used up would make the next one zero, which is no key after another.
    obtain rfl : n = idCount := by omega
    exact absurd hnext (by simp [LinkId.ofNat, idCount])

theorem byKey?_eq (h : t.Keeps l) (hl : l.Coherent n) (id : LinkId) :
    t.byKey? id.word.toNat = (l.get? id).map Link.row := by
  have hkey : ((fun row : Row => decide (row.key = id.word.toNat)) ∘ Link.row) =
      fun link => decide (link.id = id) := by
    funext link
    obtain ⟨⟨a⟩, url⟩ := link
    obtain ⟨b⟩ := id
    simp only [Function.comp_apply, Link.row, LinkId.mk.injEq, ← UInt64.toNat_inj, Int.natCast_inj]
  rw [byKey?, h.rows_eq, List.find?_map, hkey, hl.find?_id]

theorem byCell?_eq (h : t.Keeps l) (url : String) :
    t.byCell? (.ofUrl url) = (l.links.find? fun link => link.url = url).map Link.row := by
  have hcell : ((fun row : Row => decide (row.cell = .ofUrl url)) ∘ Link.row) =
      fun link => decide (link.url = url) := by
    funext link
    simp [Link.row, Cell.ofUrl_inj]
  rw [byCell?, h.rows_eq, List.find?_map, hcell]

theorem byCell?_eq_none_iff (h : t.Keeps l) {url : String} :
    t.byCell? (.ofUrl url) = none ↔ url ∉ l.urls := by
  rw [h.byCell?_eq, ← Ledger.idOf?_eq_none_iff]
  simp [Ledger.idOf?]

theorem holds (h : t.Keeps l) (room : t.lastKey < maxKey) : t.Holds l :=
  ⟨h.rows_eq, h.next_eq, room⟩

theorem insert_of_full (h : t.Keeps l) (hl : l.Coherent (maxKey + 1)) (cell : Cell) :
    t.insert cell = (.error .full, t) := by
  have hlast := h.lastKey_succ_eq hl
  rw [insert, if_pos (by omega)]

end Keeps

namespace Holds

variable {t : Table} {l : Ledger} {n : Nat}

theorem insert_of_mem (h : t.Holds l) {url : String} (hmem : url ∈ l.urls) :
    t.insert (.ofUrl url) = (.error (.notUnique "permalink"), t) := by
  have hroom : ¬ maxKey ≤ t.lastKey := Nat.not_le.mpr h.lastKey_lt
  rw [insert, if_neg hroom]
  cases hfound : t.byCell? (.ofUrl url) with
  | none => exact absurd hmem (h.keeps.byCell?_eq_none_iff.mp hfound)
  | some row => rfl

theorem insert_of_not_mem (h : t.Holds l) {url : String} (hnew : url ∉ l.urls) :
    t.insert (.ofUrl url) = (.ok (t.lastKey + 1), t.push (t.lastKey + 1) (.ofUrl url)) := by
  have hroom : ¬ maxKey ≤ t.lastKey := Nat.not_le.mpr h.lastKey_lt
  rw [insert, if_neg hroom, h.keeps.byCell?_eq_none_iff.mpr hnew]

theorem keeps_push (h : t.Holds l) (url : String) :
    (t.push (t.lastKey + 1) (.ofUrl url)).Keeps (l.push url) := by
  have hlast : (t.push (t.lastKey + 1) (.ofUrl url)).lastKey = t.lastKey + 1 := by
    simp only [Table.push]
    omega
  refine ⟨?_, ?_, ?_⟩
  · simp [Table.push, Ledger.push, h.rows_eq, Link.row, h.keeps.toNat_next]
  · rw [hlast, ← LinkId.ofNat_succ, ← h.next_eq]
    rfl
  · rw [hlast]
    exact h.lastKey_lt

end Holds

end Table

/-! ## The table behind its connections -/

namespace Pool

/-- Statements get a connection, and the table keeps the ledger. -/
def Keeps (p : Pool) (l : Ledger) : Prop :=
  ∃ t, p = ⟨⟨some t⟩, .ready⟩ ∧ t.Keeps l

/-- Statements get a connection, and the table holds the ledger. -/
def Holds (p : Pool) (l : Ledger) : Prop :=
  ∃ t, p = ⟨⟨some t⟩, .ready⟩ ∧ t.Holds l

theorem holds_fresh : fresh.Holds .empty := ⟨.empty, rfl, Table.holds_empty⟩

theorem Holds.keeps {p : Pool} {l : Ledger} (h : p.Holds l) : p.Keeps l := by
  obtain ⟨t, rfl, ht⟩ := h
  exact ⟨t, rfl, ht.keeps⟩

theorem findByUrl_eq {p : Pool} {l : Ledger} (h : p.Keeps l) (url : String) :
    p.findByUrl url = .ok (l.idOf? url) := by
  obtain ⟨t, rfl, ht⟩ := h
  simp only [findByUrl, reading, obstacle?, Database.idOf?, Database.reading, ht.byCell?_eq]
  cases hfind : l.links.find? fun link => link.url = url with
  | none => simp [Ledger.idOf?, hfind]
  | some link =>
    have hkey : LinkId.ofKey link.row.key = .ok link.id := by
      rw [Link.row, LinkId.ofKey_natCast, LinkId.ofNat_toNat]
    simp [Ledger.idOf?, hfind, hkey, Except.map]

theorem get_eq {p : Pool} {l : Ledger} {n : Nat} (h : p.Keeps l) (hl : l.Coherent n)
    (id : LinkId) : p.get id = .ok (l.get? id) := by
  obtain ⟨t, rfl, ht⟩ := h
  unfold get LinkId.key?
  by_cases hid : id.word.toNat ≤ maxKey
  · simp only [if_pos hid, reading, obstacle?, Database.get?, Database.reading, ht.byKey?_eq hl]
    cases hget : l.get? id with
    | none => rfl
    | some link =>
      obtain ⟨-, rfl⟩ := Ledger.mem_of_get?_eq_some hget
      simp [Link.row, Cell.url_ofUrl, Except.map]
  · -- No key stands for this id, and no link has it: ids stay below the next key.
    rw [if_neg hid, Ledger.get?_eq_none_iff.mpr]
    rintro link hlink rfl
    have hlt := hl.ids_lt link hlink
    have hkey := ht.lastKey_succ_eq hl
    have := ht.lastKey_le
    omega

theorem insert_of_mem {p : Pool} {l : Ledger} (h : p.Holds l) {url : String}
    (hmem : url ∈ l.urls) : p.insert url = (.error ⟨.conflict, url⟩, p) := by
  obtain ⟨t, rfl, ht⟩ := h
  simp [insert, writing, writeObstacle?, obstacle?, Database.insert, Database.writing,
    ht.insert_of_mem hmem]

theorem insert_of_not_mem {p : Pool} {l : Ledger} (h : p.Holds l) {url : String}
    (hnew : url ∉ l.urls) :
    (p.insert url).1 = .ok l.next ∧ (p.insert url).2.Keeps (l.push url) := by
  obtain ⟨t, rfl, ht⟩ := h
  have hkey : LinkId.ofKey ((t.lastKey : Int) + 1) = .ok l.next := by
    rw [ht.next_eq, ← LinkId.ofKey_natCast]
    rfl
  simp only [insert, writing, writeObstacle?, obstacle?, Database.insert, Database.writing,
    ht.insert_of_not_mem hnew]
  exact ⟨by simp [outcome, hkey], _, rfl, ht.keeps_push url⟩

/-- Without keys an insertion fails, and everything stays as it is. -/
theorem insert_of_full {p : Pool} {l : Ledger} (h : p.Keeps l) (hl : l.Coherent (maxKey + 1))
    (url : String) : p.insert url = (.error SqlError.full.failure, p) := by
  obtain ⟨t, rfl, ht⟩ := h
  simp [insert, writing, writeObstacle?, obstacle?, Database.insert, Database.writing,
    ht.insert_of_full hl]

theorem Keeps.holds {p : Pool} {l : Ledger} {n : Nat} (h : p.Keeps l) (hl : l.Coherent n)
    (room : n ≤ maxKey) : p.Holds l := by
  obtain ⟨t, rfl, ht⟩ := h
  have hlast := ht.lastKey_succ_eq hl
  exact ⟨t, rfl, ht.holds (by omega)⟩

/-- **A table behind a ready connection is a healthy store.** -/
theorem healthy : Healthy store Holds maxKey where
  limit_le := by decide
  find url h _ := ⟨congrArg outcome (findByUrl_eq h.keeps url), h⟩
  get id h hl := ⟨congrArg outcome (get_eq h.keeps hl id), h⟩
  conflict h _ hmem := by
    have answer := insert_of_mem h hmem
    exact ⟨congrArg Prod.fst answer, (congrArg Prod.snd answer) ▸ h⟩
  insert {p l n url} h hl hnew room := by
    have after := (hl.push hnew (Nat.lt_trans room (by decide)))
    obtain ⟨answer, keeps⟩ := insert_of_not_mem h hnew
    exact ⟨answer, keeps.holds after room⟩

end Pool

end LinkLedger
