import LinkLedger.Proofs.Desk.Runs
import LinkLedger.Proofs.Jobs
import LinkLedger.Proofs.Sessions
import LinkLedger.Proofs.Store.Opening

/-!
# Runs in a row and one service

Every run of the program opens the database, asks it what its job takes, and puts it back. What
carries over from run to run is the table in the file. `Disk.Stores` says that the table holds a
ledger; a missing file holds the empty one. A run that asks for a job does with that ledger what a
service does, prints its answer, and leaves a disk that stores the ledger afterwards
(`Disk.Stores.run`).

**Runs in a row are one service** (`Invocation.runs_are_one_service`): they print what a service
that keeps its links in memory answers to the same jobs, and a run that fails leaves the links
alone.
-/

set_option autoImplicit false

namespace LinkLedger

open LinkLedger.CommandLine

variable {σ τ : Type}

/-! ## A service -/

namespace Job

/-- What a service answers to a job: an id in base ten, or the url that an id leads to. -/
def answer (store : Store σ) (s : σ) : Job → Ran (Except RunFailure String) σ
  | make url =>
    let ran := (Desk.make url).run store s
    { ran with value := (ran.value.map fun id => Text.decimalText id.word.toNat).mapError .refused }
  | resolve text =>
    match LinkId.parse text with
    | .error fault => ⟨.error (.badId fault), s, []⟩
    | .ok id =>
      let ran := (Desk.resolve id).run store s
      { ran with value := ran.value.mapError .refused }

/-- What a service answers to jobs one after another. -/
def answers (store : Store σ) : σ → List Job → List (Ran (Except RunFailure String) σ)
  | _, [] => []
  | s, job :: more =>
    let ran := job.answer store s
    ran :: answers store ran.state more

theorem run_carryOut (store : Store σ) (s : σ) (job : Job) :
    (carryOut job.command).run store s = job.answer store s := by
  cases job with
  | make url =>
    simp only [command, carryOut, answer, Program.bind_eq, Program.run_bind]
    cases ((Desk.make url).run store s).value <;> simp [Except.map, Except.mapError, LinkId.text]
  | resolve text =>
    simp only [command, carryOut, answer]
    cases LinkId.parse text with
    | error fault => rfl
    | ok id =>
      simp only [Program.bind_eq, Program.run_bind]
      cases ((Desk.resolve id).run store s).value <;> simp [Except.mapError]

/-- Two stores in step answer a job alike. -/
theorem answer_lockstep {A : Store σ} {B : Store τ} {R : σ → τ → Prop} {Room : τ → Prop}
    (h : Lockstep A B R Room) (job : Job) {s : σ} {t : τ} (related : R s t)
    (room : Room (job.answer B t).state) :
    (job.answer A s).value = (job.answer B t).value ∧
      (job.answer A s).events = (job.answer B t).events ∧
      R (job.answer A s).state (job.answer B t).state := by
  rw [← run_carryOut] at room
  simp only [← run_carryOut]
  exact h.run _ related room

/-- A job that fails leaves the ledger as it is. -/
theorem state_of_error {l : Ledger} {job : Job} {failure : RunFailure}
    (h : (job.answer Ledger.store l).value = .error failure) :
    (job.answer Ledger.store l).state = l := by
  cases job with
  | make url =>
    simp only [answer] at h ⊢
    rcases Desk.checkUrl_cases url with ok | ⟨fault, bad⟩
    · cases hid : l.idOf? url with
      | some id => rw [Desk.make_run_of_mem ok hid]
      | none =>
        rw [Desk.make_run_of_not_mem ok (Ledger.idOf?_eq_none_iff.mp hid)] at h
        cases h
    · rw [Desk.make_run_refused _ _ bad]
  | resolve text =>
    simp only [answer]
    cases LinkId.parse text with
    | error fault => rfl
    | ok id =>
      cases found : l.get? id with
      | some link => simp only [Desk.resolve_run_of_some found]
      | none => simp only [Desk.resolve_run_of_none found]

end Job

/-! ## The ledger on a disk -/

/-- A ledger is held by one table only. -/
theorem Table.Holds.unique {t t' : Table} {l : Ledger} (h : t.Holds l) (h' : t'.Holds l) :
    t = t' := by
  have rows : t.rows = t'.rows := h.rows_eq.trans h'.rows_eq.symm
  have keys : t.lastKey = t'.lastKey :=
    Nat.succ.inj (h.keeps.toNat_next.symm.trans h'.keeps.toNat_next)
  obtain ⟨_, _⟩ := t
  cases rows
  cases keys
  rfl

namespace Disk

/-- The table of links in the database for jobs. A database that is missing has no links yet. -/
def kept (d : Disk) : Table := ((d.file? (.ofText Job.path)).bind Database.table).getD .empty

/-- The database for jobs holds a ledger, whose next id is the one after its size. -/
structure Stores (d : Disk) (l : Ledger) : Prop where
  /-- There is a place for the file. -/
  mayHold : d.mayHold Job.path = true
  holds : d.kept.Holds l
  coherent : l.Coherent (1 + l.size)

theorem parse_databaseUrl :
    DatabaseUrl.parse Job.databaseUrl = .ok { place := .file Job.path } := by
  have read : (DatabaseUrl.parse Job.databaseUrl).toOption =
      some { place := .file Job.path } := by decide +kernel
  cases parsed : DatabaseUrl.parse Job.databaseUrl with
  | error fault => simp [parsed, Except.toOption] at read
  | ok url => simpa [parsed, Except.toOption] using read

variable {d : Disk} {l : Ledger}

theorem admits_job (h : d.mayHold Job.path = true) :
    d.Admits { place := .file Job.path } Job.path :=
  ⟨rfl, by decide, by decide, h, by decide⟩

/-- What was kept is found when the database is opened. -/
theorem openDatabase_job (h : d.mayHold Job.path = true) :
    d.openDatabase Job.databaseUrl =
      .ok ⟨⟨⟨some d.kept⟩, .ready⟩, some (.ofText Job.path)⟩ := by
  rw [(admits_job h).openDatabase parse_databaseUrl rfl rfl]
  cases there : d.file? (.ofText Job.path) with
  | none => simp [kept, there, Database.ensureTable, Database.empty]
  | some database => simp [kept, there, Database.ensureTable]

theorem kept_save (d : Disk) (t : Table) (access : Access) :
    (d.save ⟨⟨⟨some t⟩, access⟩, some (.ofText Job.path)⟩).kept = t := by
  rw [kept, file?_save]
  rfl

/-- **A run does with the ledger on the disk what a service does with it.** -/
theorem Stores.run (h : d.Stores l) (time : String) {i : Invocation} {job : Job}
    (asks : i.AsksFor job) (room : (job.answer Ledger.store l).state.size < maxKey) :
    (i.run time d).1 =
        .ofResult (Log.usualLines time (.opening "sqlite" :: (job.answer Ledger.store l).events))
          (job.answer Ledger.store l).value ∧
      (i.run time d).2.Stores (job.answer Ledger.store l).state := by
  have lockstep := (Pool.healthy.lockstep (fun _ _ => rfl) 1).database
  obtain ⟨value, events, p, state, ⟨t, rfl, holds⟩, coherent⟩ :=
    job.answer_lockstep lockstep ⟨_, rfl, ⟨d.kept, rfl, h.holds⟩, h.coherent⟩ (by omega)
  have course : carryOutOn (job.settings (i.environment.lookup Key.mysqlDsn.variableName)) d =
      ⟨.opening "sqlite" :: (job.answer Ledger.store l).events, (job.answer Ledger.store l).value,
        d.save ⟨⟨⟨some t⟩, .ready⟩, some (.ofText Job.path)⟩⟩ := by
    simp only [carryOutOn, openStore, Job.settings, openDatabase_job h.mayHold, Job.run_carryOut,
      value, events, state]
    rfl
  rw [Invocation.run, asks.prepare_eq]
  simp only [Ready.run, course, Ready.logLines_usual, true_and]
  exact ⟨((admits_job h.mayHold).save _).mayHold, by rwa [kept_save], coherent⟩

end Disk

/-! ## Runs in a row -/

namespace Printed

/-- A run prints its log and then the text that is its result, and ends with zero; or the log alone,
    and ends with one. -/
def Shows (p : Printed) (log : List String) : Except RunFailure String → Prop
  | .ok text => p.output = log ++ [text] ∧ p.errors = [] ∧ p.code = 0
  | .error failure => p.output = log ∧ p.errors = failure.lines ∧ p.code = 1

/-- A run prints the usual log and what a service answered. -/
def Reports (time : String) (p : Printed) (ran : Ran (Except RunFailure String) σ) : Prop :=
  p.Shows (Log.usualLines time (.opening "sqlite" :: ran.events)) ran.value

variable {p : Printed} {log : List String} {result : Except RunFailure String}

theorem shows_ofResult (log : List String) (result : Except RunFailure String) :
    (ofResult log result).Shows log result := by
  cases result with
  | ok text => exact ⟨rfl, rfl, rfl⟩
  | error failure => exact ⟨rfl, rfl, rfl⟩

theorem Shows.error_of_code (h : p.Shows log result) (failed : p.code ≠ 0) :
    ∃ failure, result = .error failure := by
  cases result with
  | ok text => exact absurd h.2.2 failed
  | error failure => exact ⟨failure, rfl⟩

end Printed

namespace Invocation

def diskAfter (time : String) (disk : Disk) (invocations : List Invocation) : Disk :=
  invocations.foldl (fun disk i => (i.run time disk).2) disk

/-- Whenever a run among several does not end with zero, the links are the same as before it. -/
def KeepLinksOnFailure (time : String) (disk : Disk) (invocations : List Invocation) : Prop :=
  ∀ before i, before ++ [i] <+: invocations →
    (i.run time (diskAfter time disk before)).1.code ≠ 0 →
      (i.run time (diskAfter time disk before)).2.kept = (diskAfter time disk before).kept

theorem keepLinksOnFailure_cons {time : String} {disk : Disk} {i : Invocation}
    {more : List Invocation}
    (first : (i.run time disk).1.code ≠ 0 → (i.run time disk).2.kept = disk.kept)
    (rest : KeepLinksOnFailure time (i.run time disk).2 more) :
    KeepLinksOnFailure time disk (i :: more) := by
  intro before j h
  cases before with
  | nil =>
    obtain ⟨rfl, -⟩ := List.cons_prefix_cons.mp h
    exact first
  | cons k before =>
    rw [List.cons_append] at h
    obtain ⟨rfl, later⟩ := List.cons_prefix_cons.mp h
    exact rest before j later

/-- By induction on the runs: the table on the disk and the indexes of the service hold one ledger
    before each of them. -/
theorem runs_of_stores (time : String) {invocations : List Invocation} {jobs : List Job}
    (asks : List.Forall₂ AsksFor invocations jobs) :
    ∀ {d : Disk} {m : Indexes} {l : Ledger}, d.Stores l → m.Holds l →
      (∀ ran ∈ Job.answers Indexes.store m jobs, ran.state.size < maxKey) →
      List.Forall₂ (Printed.Reports time) (runAll time invocations d)
          (Job.answers Indexes.store m jobs) ∧
        KeepLinksOnFailure time d invocations := by
  induction asks with
  | nil =>
    intro d m l _ _ _
    exact ⟨.nil, fun before i h => by simp at h⟩
  | @cons i job invocations jobs first _ ih =>
    intro d m l stores holds few
    obtain ⟨value, events, after⟩ := job.answer_lockstep Indexes.lockstep holds trivial
    have room : (job.answer Ledger.store l).state.size < maxKey := by
      rw [← after.size_eq]
      exact few _ List.mem_cons_self
    obtain ⟨printed, stored⟩ := stores.run time first room
    have reports : (i.run time d).1.Reports time (job.answer Indexes.store m) := by
      rw [Printed.Reports, printed, value, events]
      exact Printed.shows_ofResult _ _
    have unchanged : (i.run time d).1.code ≠ 0 → (i.run time d).2.kept = d.kept := by
      intro failed
      obtain ⟨failure, error⟩ := reports.error_of_code failed
      have same := Job.state_of_error (value.symm.trans error)
      exact (same ▸ stored.holds).unique stores.holds
    obtain ⟨rest, later⟩ := ih stored after fun ran h => few ran (List.mem_cons_of_mem _ h)
    exact ⟨.cons reports rest, keepLinksOnFailure_cons unchanged later⟩

/-- **Runs in a row are one service.** Let runs be asked for jobs in a directory where no links are
    kept yet, and let a service that keeps its links in memory be asked for the same jobs, making
    fewer links than there are keys. Then each run prints the usual log and the text that the
    service answers, or nothing more if that is a failure; and a run that does not end with zero
    leaves the links as they are. -/
theorem runs_are_one_service (time : String) {invocations : List Invocation} {jobs : List Job}
    (asks : List.Forall₂ AsksFor invocations jobs) {disk : Disk}
    (place : disk.mayHold Job.path = true) (new : disk.kept = .empty)
    (few : ∀ ran ∈ Job.answers Indexes.store .empty jobs, ran.state.size < maxKey) :
    List.Forall₂ (Printed.Reports time) (runAll time invocations disk)
        (Job.answers Indexes.store .empty jobs) ∧
      KeepLinksOnFailure time disk invocations :=
  runs_of_stores time asks ⟨place, new ▸ Table.holds_empty, Ledger.coherent_empty⟩
    Indexes.holds_empty few

/-- A link is made and found again by a text with a leading zero; then every way to fail. The
    address of a database server in the environment is not looked at. -/
theorem runs_are_one_service_with_failures :
    let jobs : List Job := [.make "http://a.b/", .resolve "01", .make "a.b", .resolve "7",
      .resolve "x", .make "http://a.b/"]
    let invocations := jobs.map fun job => ⟨job.arguments, [("PERMALINK_MYSQL_DSN", "a.b")]⟩
    List.Forall₂ AsksFor invocations jobs ∧
    (Disk.empty []).mayHold Job.path = true ∧ (Disk.empty []).kept = .empty ∧
    (∀ ran ∈ Job.answers Indexes.store .empty jobs, ran.state.size < maxKey) ∧
    (Job.answers Indexes.store .empty jobs).map (fun ran => ran.value.toOption) =
      [some "1", some "http://a.b/", none, none, none, some "1"] ∧
    List.Forall₂ (Printed.Reports "now") (runAll "now" invocations (Disk.empty []))
      (Job.answers Indexes.store .empty jobs) ∧
    KeepLinksOnFailure "now" (Disk.empty []) invocations := by
  intro jobs invocations
  have asks : List.Forall₂ AsksFor invocations jobs := by
    have undashed : ∀ job ∈ jobs, Undashed job.operand := by decide
    have usual : UsualLog [("PERMALINK_MYSQL_DSN", "a.b")] := by decide
    exact List.forall₂_map_left_iff.mpr
      (List.forall₂_same.mpr fun job hjob => ⟨rfl, undashed job hjob, usual⟩)
  have few : ∀ ran ∈ Job.answers Indexes.store .empty jobs, ran.state.size < maxKey := by
    decide +kernel
  have place : (Disk.empty []).mayHold Job.path = true := by decide +kernel
  exact ⟨asks, place, rfl, few, by decide +kernel,
    runs_are_one_service "now" asks place rfl few⟩

end Invocation

end LinkLedger
