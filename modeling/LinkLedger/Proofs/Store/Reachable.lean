import LinkLedger.Proofs.Steps
import LinkLedger.Proofs.Store.Lawful

/-!
# Whatever was done to the table

A session begins with a new file, and then anything is done: requests are sent through any faults,
rows are planted and deleted by hand, the table is dropped and made again, connections are taken,
closed and opened. Every step keeps the law of the table (`Session.lawful_step`), so every table
that can be reached is lawful (`Database.Reachable.lawful`), although it need not keep any ledger.

Two things hold of such a table however it came about: **look-ups by id and by url agree**
(`Pool.lookups_agree`), and **an insertion adds one row or nothing**
(`Pool.insert_is_all_or_nothing`).
-/

set_option autoImplicit false

namespace LinkLedger

open LinkLedger.Gateway

/-! ## Steps keep the law -/

/-- A row is planted under a signed word. -/
def Step.IsSigned : Step → Prop
  | .plant key _ => -(maxKey + 1 : Int) ≤ key ∧ key ≤ maxKey
  | _ => True

namespace Backing

/-- The table is lawful, if the links are kept in one. -/
def Lawful : Backing → Prop
  | database p => p.database.Lawful
  | memory _ | closedServer => True

variable {b : Backing}

theorem Lawful.onPool (h : b.Lawful) {change : Pool → Pool}
    (keeps : ∀ p : Pool, p.database.Lawful → (change p).database.Lawful) :
    (b.onPool change).Lawful := by
  cases b with
  | database p => exact keeps p h
  | memory m => exact trivial
  | closedServer => exact trivial

theorem Lawful.onTable (h : b.Lawful) {statement : Table → Except SqlError Unit × Table}
    (keeps : ∀ t, t.Lawful → (statement t).2.Lawful) : (b.onTable statement).2.Lawful := by
  cases b with
  | database p => exact Pool.lawful_writing h fun d hd => hd.writing keeps
  | memory m => exact trivial
  | closedServer => exact trivial

theorem Lawful.dropTable (h : b.Lawful) : b.dropTable.2.Lawful := by
  cases b with
  | database p =>
    let statement : Database → Except SqlError Unit × Database := fun d => (.ok (), d.dropTable)
    show (p.writing statement).2.database.Lawful
    exact Pool.lawful_writing h fun d _ => d.lawful_dropTable
  | memory m => exact trivial
  | closedServer => exact trivial

theorem Lawful.ensureTable (h : b.Lawful) : b.ensureTable.2.Lawful := by
  cases b with
  | database p => exact Pool.lawful_ensureTable h
  | memory m => exact trivial
  | closedServer => exact trivial

theorem lawful_answer (call : Call) (b : Backing) (h : b.Lawful) :
    (store.answer call b).2.Lawful := by
  cases b with
  | database p => exact Pool.lawful_answer call p h
  | memory m => exact trivial
  | closedServer => exact trivial

theorem Lawful.work (h : b.Lawful) {step : Step} (signed : step.IsSigned) :
    (step.work b).Lawful := by
  cases step with
  | ensureTable => exact h.ensureTable
  | plant key cell => exact h.onTable fun t ht => ht.plant signed.2 cell
  | delete key => exact h.onTable fun t ht => ht.delete key
  | dropTable => exact h.dropTable
  | close | hold | release => exact h.onPool fun p hp => hp
  | reopen => exact h.onPool fun p hp => hp.ensureTable
  | make _ | resolve _ | makeTogether _ | send _ | ask _ | size | plan _ _ => exact h

end Backing

namespace Session

variable {s : Session}

/-- **Every step keeps the law of the table.** -/
theorem lawful_step (h : s.backing.Lawful) {step : Step} (signed : step.IsSigned) :
    (s.step step).state.backing.Lawful :=
  step_keeps Backing.lawful_answer (fun _ hb => hb.work signed) h

theorem lawful_run {steps : List Step} (h : s.backing.Lawful)
    (signed : ∀ step ∈ steps, step.IsSigned) : (s.run steps).1.backing.Lawful :=
  run_keeps Backing.lawful_answer (fun step hstep _ hb => hb.work (signed step hstep)) h

end Session

/-! ## What can be reached -/

/-- A database that some steps of a session lead to, from a new file. -/
def Database.Reachable (d : Database) : Prop :=
  ∃ (base : Base) (steps : List Step) (access : Access), (∀ step ∈ steps, step.IsSigned) ∧
    ((Session.start (.database ⟨.empty, .ready⟩) base).run steps).1.backing = .database ⟨d, access⟩

theorem Database.Reachable.lawful {d : Database} (h : d.Reachable) : d.Lawful := by
  obtain ⟨base, steps, access, signed, reached⟩ := h
  have lawful := Session.lawful_run
    (s := Session.start (.database ⟨.empty, .ready⟩) base) Database.lawful_empty signed
  rwa [reached] at lawful

namespace Pool

/-- **Look-ups by id and by url agree on any table**, whatever was done to it and planted in it.
    Over a working connection

    * a url is found under an id exactly if the link that is found under the id is that url's;
    * nothing is found under an id exactly if no row has it for a key, not even one whose key is the
      same word, or is beyond the keys that are looked for;
    * a row that holds no url is reported as such, and a link that is found is that of a row. -/
theorem lookups_agree {p : Pool} (reachable : p.database.Reachable) (works : p.obstacle? = none)
    {t : Table} (table : p.database.table = some t) (id : LinkId) :
    (∀ url, (store.answer (.findByUrl url) p).1 = .ok (some id) ↔
      (store.answer (.get id) p).1 = .ok (some ⟨id, url⟩)) ∧
    ((store.answer (.get id) p).1 = .ok none ↔ ∀ row ∈ t.rows, row.key ≠ id.word.toNat) ∧
    (∀ row ∈ t.rows, row.key = id.word.toNat → row.cell.IsUnreadable →
      ∃ failure, (store.answer (.get id) p).1 = .error failure ∧ failure.kind = .invalidData) ∧
    ∀ link, (store.answer (.get id) p).1 = .ok (some link) → link.id = id ∧ link.row ∈ t.rows := by
  have law : t.Lawful := reachable.lawful t table
  simp only [store, outcome_eq_ok_iff]
  refine ⟨fun url => ?_, get_eq_none_iff works table law id, ?_,
    fun link => (get_eq_some_iff works table law id link).mp⟩
  · rw [findByUrl_eq_some_iff works table law, get_eq_some_iff works table law]
    exact (and_iff_right rfl).symm
  · intro row hrow hkey unreadable
    -- Keys are unique, so the row that is read is this one.
    obtain ⟨absent, -⟩ | ⟨other, hother, hkey', answer⟩ := get_cases works table law id
    · exact absurd hkey (absent row hrow)
    · have same : other = row :=
        List.inj_on_of_nodup_map law.keys_nodup hother hrow (hkey'.trans hkey.symm)
      obtain ⟨e, notUrl, kind⟩ := unreadable.url_eq
      rw [answer, same, notUrl]
      exact ⟨e.failure, rfl, kind⟩

/-- By hand, a url is planted under a negative key, the same bytes that are no text under zero, and
    text that is no text under three; a url is inserted, and another planted under the last key. -/
theorem lookups_agree_on_planted_rows :
    let planted : Table := ⟨[⟨-5, .ofUrl "http://a.b/"⟩, ⟨0, .blob "http://a.b/".toByteArray⟩,
      ⟨3, .text ⟨#[0xff]⟩⟩, ⟨4, .ofUrl "http://c.d/"⟩, ⟨maxKey, .ofUrl "http://e.f/"⟩], maxKey⟩
    let p : Pool := ⟨⟨some planted⟩, .ready⟩
    p.database.Reachable ∧ p.obstacle? = none ∧
      (store.answer (.get ⟨4⟩) p).1 = .ok (some ⟨⟨4⟩, "http://c.d/"⟩) ∧
      (store.answer (.get ⟨18446744073709551611⟩) p).1 = .ok none ∧
      ∃ failure, (store.answer (.get ⟨3⟩) p).1 = .error failure ∧ failure.kind = .invalidData := by
  intro planted p
  have reachable : p.database.Reachable := by
    refine ⟨.ofText "", [.ensureTable, .plant (-5) (.ofUrl "http://a.b/"),
      .plant 0 (.blob "http://a.b/".toByteArray), .plant 3 (.text ⟨#[0xff]⟩),
      .ask (.insert "http://c.d/"), .plant 9 (.ofUrl "http://e.f/"), .delete 9,
      .plant maxKey (.ofUrl "http://e.f/"), .reopen], .ready, ?_, by decide +kernel⟩
    simp [Step.IsSigned, maxKey]
  have agree := lookups_agree reachable rfl (t := planted) rfl
  refine ⟨reachable, rfl, ?_, ?_, ?_⟩
  · exact ((agree ⟨4⟩).1 "http://c.d/").mp (by decide +kernel)
  · exact (agree ⟨18446744073709551611⟩).2.1.mpr (by decide +kernel)
  · exact (agree ⟨3⟩).2.2.1 ⟨3, .text ⟨#[0xff]⟩⟩ (by decide +kernel) rfl (by decide +kernel)

/-- **An insertion adds one row or nothing**, whatever was done to the table and to the connections.
    If it fails, all stays as it was, the next key included, and it does not fail for a key that is
    no id. If it gives an id, then it added the row of the link, under the key after the last, which
    is a signed word above zero that no row had; and the link is found under the id. -/
theorem insert_is_all_or_nothing {p : Pool} (reachable : p.database.Reachable) (url : String) :
    let answer := (store.answer (.insert url) p).1
    let after := (store.answer (.insert url) p).2
    (∀ failure, answer = .error failure →
      after = p ∧ ∀ key, failure ≠ (SqlError.negativeKey key).failure) ∧
    ∀ id, answer = .ok id →
      ∃ t, p.database.table = some t ∧
        after = ⟨⟨some ⟨t.rows ++ [Link.row ⟨id, url⟩], id.word.toNat⟩⟩, p.access⟩ ∧
        id.word.toNat = t.lastKey + 1 ∧ id.word.toNat ≤ maxKey ∧
        (∀ row ∈ t.rows, row.key ≠ id.word.toNat) ∧
        (store.answer (.get id) after).1 = .ok (some ⟨id, url⟩) := by
  intro answer after
  have lawful : after.database.Lawful := lawful_answer (.insert url) p reachable.lawful
  obtain ⟨failure, inserted, kind⟩ | ⟨t, table, room, works, inserted⟩ := p.insert_cases url
  · have failed : answer = .error failure := congrArg Prod.fst inserted
    rw [failed]
    refine ⟨?_, nofun⟩
    rintro _ ⟨⟩
    exact ⟨congrArg Prod.snd inserted, fun key same => kind (congrArg StoreFailure.kind same)⟩
  · have given : answer = .ok (.ofNat (t.lastKey + 1)) := congrArg Prod.fst inserted
    have grown : after = _ := congrArg Prod.snd inserted
    rw [given]
    refine ⟨nofun, ?_⟩
    rintro _ ⟨⟩
    -- The key after the last is small enough to be the number of an id.
    have number : (LinkId.ofNat (t.lastKey + 1)).word.toNat = t.lastKey + 1 :=
      LinkId.toNat_ofNat (by simp only [maxKey, idCount] at *; omega)
    have row : Link.row ⟨.ofNat (t.lastKey + 1), url⟩ = ⟨t.lastKey + 1, .ofUrl url⟩ :=
      Link.row_eq (by rw [number]; rfl) rfl
    rw [grown] at lawful ⊢
    refine ⟨t, table, ?_, number, ?_, fun row hrow => ?_, ?_⟩
    · rw [row, number]
    · rw [number]
      exact room
    · rw [number]
      exact (reachable.lawful t table).key_ne_succ hrow
    · have found := (get_eq_some_iff (p := ⟨⟨some _⟩, p.access⟩) works rfl (lawful _ rfl) _
        ⟨.ofNat (t.lastKey + 1), url⟩).mpr ⟨rfl, by simp [row]⟩
      exact congrArg outcome found

/-- A row is deleted whose key was the largest so far, and the next one gets the key after it; the
    url is there then. Once the last key of all is used, nothing is added any more. -/
theorem insert_is_all_or_nothing_after_deletion :
    let rows : List Row := [⟨-7, .ofUrl "http://a.b/"⟩, ⟨0, .ofUrl "http://c.d/"⟩]
    let p : Pool := ⟨⟨some ⟨rows, 41⟩⟩, .ready⟩
    let full : Pool := ⟨⟨some ⟨rows ++ [⟨maxKey, .blob .empty⟩], maxKey⟩⟩, .ready⟩
    p.database.Reachable ∧ full.database.Reachable ∧
      (store.answer (.get ⟨42⟩) (store.answer (.insert "http://e.f/") p).2).1 =
        .ok (some ⟨⟨42⟩, "http://e.f/"⟩) ∧
      (store.answer (.insert "http://e.f/") full).2 = full := by
  intro rows p full
  let steps : List Step := [.ensureTable, .plant (-7) (.ofUrl "http://a.b/"),
    .plant 0 (.ofUrl "http://c.d/"), .plant 41 (.text ⟨#[0xff]⟩), .delete 41]
  have reachable : p.database.Reachable := by
    refine ⟨.ofText "", steps, .ready, ?_, by decide +kernel⟩
    simp [steps, Step.IsSigned, maxKey]
  have reachable' : full.database.Reachable := by
    refine ⟨.ofText "", steps ++ [.plant maxKey (.blob .empty), .close], .closed, ?_,
      by decide +kernel⟩
    simp [steps, Step.IsSigned, maxKey]
  obtain ⟨t, -, -, -, -, -, found⟩ :=
    (insert_is_all_or_nothing reachable "http://e.f/").2 ⟨42⟩ (by decide +kernel)
  have refused : (store.answer (.insert "http://e.f/") full).1 = .error SqlError.full.failure := by
    decide +kernel
  exact ⟨reachable, reachable', found,
    ((insert_is_all_or_nothing reachable' "http://e.f/").1 _ refused).1⟩

end Pool

end LinkLedger
