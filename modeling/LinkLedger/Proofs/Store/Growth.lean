import LinkLedger.Proofs.Store.Lawful

/-!
# How a table grows

`Table.Grows t marks after` says how a table came from another one: a link was made under the next
key, a row was planted under any key, a row was deleted, any number of times. The marks tell which
keys were taken on the way, in order. Whatever was deleted meanwhile, **every link got a key that is
greater than all keys before** (`Table.Grows.ordered`), and a key that belonged to a url can only be
given to another one by planting it (`Table.Grows.settled`).
-/

set_option autoImplicit false

namespace LinkLedger

/-! ## Marks -/

/-- What takes a key: a link that is made, or a row that is planted. -/
inductive Mark where
  | issued (id : LinkId) (url : String)
  | planted (key : Int)
  deriving DecidableEq

namespace Mark

def key : Mark → Int
  | issued id _ => id.word.toNat
  | planted key => key

def IsIssued : Mark → Prop
  | issued _ _ => True
  | planted _ => False

end Mark

namespace Table

/-! ## Growth -/

/-- How a table comes from another one, and what took a key on the way. -/
inductive Grows : Table → List Mark → Table → Prop
  | same (t : Table) : Grows t [] t
  | issue {t after : Table} {marks : List Mark} {url : String} (room : t.lastKey < maxKey)
    (more : Grows (t.push (t.lastKey + 1) (.ofUrl url)) marks after) :
    Grows t (.issued (.ofNat (t.lastKey + 1)) url :: marks) after
  | plant {t after : Table} {marks : List Mark} {key : Int} {cell : Cell}
    (more : Grows (t.push key cell) marks after) : Grows t (.planted key :: marks) after
  | delete {t after : Table} {marks : List Mark} {key : Int}
    (more : Grows (t.delete key) marks after) : Grows t marks after

/-- The id belongs to the url: no new row gets it for a key, and a row that has it holds the url. -/
structure Settled (t : Table) (id : LinkId) (url : String) : Prop where
  used : id.word.toNat ≤ t.lastKey
  cell_eq : ∀ row ∈ t.rows, row.key = id.word.toNat → row.cell = .ofUrl url

variable {t after : Table} {marks : List Mark} {id : LinkId} {url : String}

theorem lastKey_le_push (t : Table) (key : Int) (cell : Cell) :
    t.lastKey ≤ (t.push key cell).lastKey := Nat.le_max_left _ _

theorem key_le_push (t : Table) (key : Int) (cell : Cell) :
    key ≤ (t.push key cell).lastKey := by
  simp only [push]
  omega

theorem mem_push {key : Int} {cell : Cell} {row : Row} :
    row ∈ (t.push key cell).rows ↔ row ∈ t.rows ∨ row = ⟨key, cell⟩ := by
  simp [push]

theorem key_le_of_push {key : Int} {cell : Cell} (bound : ∀ row ∈ t.rows, row.key ≤ t.lastKey) :
    ∀ row ∈ (t.push key cell).rows, row.key ≤ (t.push key cell).lastKey := by
  intro row hrow
  rcases mem_push.mp hrow with old | rfl
  · have := bound row old
    have := t.lastKey_le_push key cell
    omega
  · exact t.key_le_push key cell

namespace Grows

theorem trans {between : Table} {more : List Mark} (h : t.Grows marks between)
    (h' : between.Grows more after) : t.Grows (marks ++ more) after := by
  induction h with
  | same => exact h'
  | issue room _ ih => exact .issue room (ih h')
  | plant _ ih => exact .plant (ih h')
  | delete _ ih => exact .delete (ih h')

theorem lastKey_le (h : t.Grows marks after) : t.lastKey ≤ after.lastKey := by
  induction h with
  | same => exact Nat.le_refl _
  | issue _ _ ih => exact Nat.le_trans (lastKey_le_push _ _ _) ih
  | plant _ ih => exact Nat.le_trans (lastKey_le_push _ _ _) ih
  | delete _ ih => exact ih

theorem lt_key_of_issued (h : t.Grows marks after) :
    ∀ mark ∈ marks, mark.IsIssued → (t.lastKey : Int) < mark.key := by
  induction h with
  | same => simp
  | @issue t after marks url room more ih =>
    intro mark hmark issued
    rcases List.mem_cons.mp hmark with rfl | later
    · simp only [Mark.key, toNat_next room]
      omega
    · have := ih mark later issued
      have := t.lastKey_le_push (t.lastKey + 1) (.ofUrl url)
      omega
  | @plant t after marks key cell more ih =>
    intro mark hmark issued
    rcases List.mem_cons.mp hmark with rfl | later
    · exact issued.elim
    · have := ih mark later issued
      have := t.lastKey_le_push key cell
      omega
  | delete _ ih => exact ih

/-- **Every link gets a key that is greater than all keys before.** -/
theorem ordered (h : t.Grows marks after) :
    marks.Pairwise fun earlier later => later.IsIssued → earlier.key < later.key := by
  induction h with
  | same => exact .nil
  | @issue t after marks url room more ih =>
    refine .cons (fun later hlater issued => ?_) ih
    have := more.lt_key_of_issued later hlater issued
    have := t.key_le_push (t.lastKey + 1) (.ofUrl url)
    simp only [Mark.key, toNat_next room] at *
    omega
  | @plant t after marks key cell more ih =>
    refine .cons (fun later hlater issued => ?_) ih
    have := more.lt_key_of_issued later hlater issued
    have := t.key_le_push key cell
    simp only [Mark.key] at *
    omega
  | delete _ ih => exact ih

/-- A row was there before, or its key is marked. -/
theorem mem_or_marked (h : t.Grows marks after) {row : Row} (hrow : row ∈ after.rows) :
    row ∈ t.rows ∨ ∃ mark ∈ marks, mark.key = row.key := by
  induction h with
  | same => exact .inl hrow
  | issue room _ ih =>
    rcases ih hrow with there | ⟨mark, hmark, key⟩
    · rcases mem_push.mp there with old | rfl
      · exact .inl old
      · refine .inr ⟨_, List.mem_cons_self, ?_⟩
        simp [Mark.key, toNat_next room]
    · exact .inr ⟨mark, List.mem_cons_of_mem _ hmark, key⟩
  | plant _ ih =>
    rcases ih hrow with there | ⟨mark, hmark, key⟩
    · rcases mem_push.mp there with old | rfl
      · exact .inl old
      · exact .inr ⟨_, List.mem_cons_self, rfl⟩
    · exact .inr ⟨mark, List.mem_cons_of_mem _ hmark, key⟩
  | delete _ ih =>
    rcases ih hrow with there | marked
    · exact .inl (List.mem_of_mem_filter there)
    · exact .inr marked

/-- **An id belongs to its url for ever**, unless it is planted. -/
theorem settled (h : t.Grows marks after) (belongs : t.Settled id url)
    (apart : .planted id.word.toNat ∉ marks) : after.Settled id url := by
  induction h with
  | same => exact belongs
  | @issue t after marks new room more ih =>
    refine ih ⟨Nat.le_trans belongs.used (t.lastKey_le_push _ _), ?_⟩ ?_
    · intro row hrow key
      rcases mem_push.mp hrow with old | rfl
      · exact belongs.cell_eq row old key
      · -- The new key is beyond the id.
        have := belongs.used
        simp only at key
        omega
    · exact fun later => apart (List.mem_cons_of_mem _ later)
  | @plant t after marks planted cell more ih =>
    refine ih ⟨Nat.le_trans belongs.used (t.lastKey_le_push _ _), ?_⟩ ?_
    · intro row hrow key
      rcases mem_push.mp hrow with old | rfl
      · exact belongs.cell_eq row old key
      · exact absurd (key ▸ List.mem_cons_self) apart
    · exact fun later => apart (List.mem_cons_of_mem _ later)
  | delete more ih =>
    refine ih ⟨belongs.used, fun row hrow => ?_⟩ apart
    exact belongs.cell_eq row (List.mem_of_mem_filter hrow)

/-- An id belongs to the url that it is issued for. -/
theorem settled_of_issued (h : t.Grows marks after)
    (bound : ∀ row ∈ t.rows, row.key ≤ t.lastKey) (issued : .issued id url ∈ marks)
    (apart : .planted id.word.toNat ∉ marks) : after.Settled id url := by
  induction h with
  | same => cases issued
  | @issue t after marks new room more ih =>
    have apart' := fun later => apart (List.mem_cons_of_mem _ later)
    rcases List.mem_cons.mp issued with this | later
    · cases this
      refine more.settled ⟨?_, fun row hrow key => ?_⟩ apart'
      · have := t.key_le_push (t.lastKey + 1) (.ofUrl url)
        rw [toNat_next room]
        omega
      · rcases mem_push.mp hrow with old | rfl
        · have := bound row old
          rw [toNat_next room] at key
          omega
        · rfl
    · exact ih (key_le_of_push bound) later apart'
  | plant more ih =>
    rcases List.mem_cons.mp issued with this | later
    · cases this
    · exact ih (key_le_of_push bound) later fun later => apart (List.mem_cons_of_mem _ later)
  | delete more ih =>
    exact ih (fun row hrow => bound row (List.mem_of_mem_filter hrow)) issued apart

end Grows

end Table

end LinkLedger
