import LinkLedger.Proofs.Store.History
import LinkLedger.Proofs.Store.Opening

/-!
# Restarts are invisible

While there are connections and a table, making the table and opening the file again change nothing
at all (`Session.step_restart`), and no other step takes connections or table away, unless that is
what it is for (`Step.work_open`). So **whatever is done, restarts in between make no difference to
what comes of it** (`Session.restarts_are_invisible`).
-/

set_option autoImplicit false

namespace LinkLedger

open LinkLedger.Gateway

/-! ## Steps and restarts -/

namespace Step

/-- Whether a step is for nothing but a table and connections. -/
def isRestart : Step → Bool
  | .ensureTable | .reopen => true
  | _ => false

/-- A step takes neither table nor connections away. A database that is open for reading only would
    be open for more after `reopen`. -/
def Spares (access : Access) : Step → Prop
  | .dropTable | .close | .hold => False
  | .reopen => access = .ready
  | _ => True

end Step

/-- There is a table, and connections to it. -/
def Backing.IsOpen (access : Access) (b : Backing) : Prop :=
  ∃ t, b = .database ⟨⟨some t⟩, access⟩ ∧ Pool.obstacle? ⟨⟨some t⟩, access⟩ = none

variable {access : Access}

theorem Backing.isOpen_answer (call : Call) {b : Backing} (h : b.IsOpen access) :
    (store.answer call b).2.IsOpen access := by
  obtain ⟨t, rfl, works⟩ := h
  obtain ⟨after, answered, -⟩ := answer_grows call t access
  exact ⟨after, answered, works⟩

theorem Backing.isOpen_onTable {b : Backing} (h : b.IsOpen access)
    (statement : Table → Except SqlError Unit × Table) :
    (b.onTable statement).2.IsOpen access := by
  obtain ⟨t, rfl, works⟩ := h
  obtain ⟨failure, worked⟩ | worked := onTable_cases t access statement
  · exact ⟨t, congrArg Prod.snd worked, works⟩
  · exact ⟨(statement t).2, congrArg Prod.snd worked, works⟩

theorem Step.work_open {step : Step} (spares : step.Spares access) {b : Backing}
    (h : b.IsOpen access) : (step.work b).IsOpen access := by
  cases step with
  | plant key cell => exact Backing.isOpen_onTable h _
  | delete key => exact Backing.isOpen_onTable h _
  | ensureTable =>
    obtain ⟨t, rfl, works⟩ := h
    exact ⟨t, rfl, works⟩
  | release =>
    obtain ⟨t, rfl, works⟩ := h
    cases access with
    | ready | readOnly => exact ⟨t, rfl, rfl⟩
    | held | closed => cases works
  | reopen =>
    obtain ⟨t, rfl, -⟩ := h
    cases spares
    exact ⟨t, rfl, rfl⟩
  | dropTable | close | hold => exact spares.elim
  | make _ | resolve _ | makeTogether _ | send _ | ask _ | size | plan _ _ => exact h

namespace Session

/-- **A restart does nothing**: the session is what it was, not just alike. -/
theorem step_restart {s : Session} (h : s.backing.IsOpen access) {step : Step}
    (spares : step.Spares access) (restart : step.isRestart = true) :
    s.step step = ⟨.done (.ok ()), s, []⟩ := by
  obtain ⟨backing, faults, base⟩ := s
  obtain ⟨t, rfl, works⟩ := h
  cases step with
  | ensureTable =>
    have made := Pool.ensureTable_of_table works rfl
    simp [step, worked, Backing.ensureTable, made, Pool.outcome]
  | reopen =>
    cases spares
    rfl
  | _ => cases restart

/-- What comes of the steps of a run that are no restarts. -/
def besideRestarts (s : Session) (steps : List Step) : List (Outcome × List Event) :=
  ((steps.zip (s.run steps).2).filter fun (step, _) => !step.isRestart).map Prod.snd

variable {s : Session} {steps : List Step}

/-- A run without its restarts ends where it ends with them, and the same comes of its steps. -/
theorem run_beside_restarts (h : s.backing.IsOpen access)
    (spares : ∀ step ∈ steps, step.Spares access) :
    s.run (steps.filter fun step => !step.isRestart) =
      ((s.run steps).1, s.besideRestarts steps) := by
  induction steps generalizing s with
  | nil => rfl
  | cons first more ih =>
    have later := fun step hstep => spares step (List.mem_cons_of_mem first hstep)
    have first_spares := spares first List.mem_cons_self
    cases restart : first.isRestart with
    | true =>
      have nothing := step_restart h first_spares restart
      simp [besideRestarts, run, restart, nothing, ih h later]
    | false =>
      have after : (s.step first).state.backing.IsOpen access :=
        step_keeps (fun call _ => Backing.isOpen_answer call)
          (fun _ => Step.work_open first_spares) h
      simp [besideRestarts, run, restart, ih after later]

/-- **Restarts are invisible.** A database in a file is opened by a url, and then anything is done,
    through any faults; only table and connections are never taken away. However often the table is
    made and the file is opened again in between,

    * what comes of the other steps is what comes of them alone, and the session ends the same;
    * every restart succeeds;
    * and if the process ends after all of this and the url is opened on the disk once more, the
      table and the access are those that the session ended with. -/
theorem restarts_are_invisible {disk : Disk} {url : String} {opened : Opened} {path : FilePath}
    (opening : disk.openDatabase url = .ok opened) (inFile : opened.file = some path)
    (faults : FaultPlan) (base : Base) (steps : List Step)
    (spares : ∀ step ∈ steps, step.Spares opened.pool.access) :
    let start : Session := ⟨.database opened.pool, faults, base⟩
    start.run (steps.filter fun step => !step.isRestart) =
        ((start.run steps).1, start.besideRestarts steps) ∧
      (∀ taken ∈ steps.zip (start.run steps).2,
        taken.1.isRestart = true → taken.2 = (.done (.ok ()), [])) ∧
      ∃ p, (start.run steps).1.backing = .database p ∧
        (disk.save ⟨p, some path⟩).openDatabase url = .ok ⟨p, some path⟩ := by
  intro start
  obtain ⟨works, table⟩ := Disk.table_of_openDatabase opening
  have open_start : start.backing.IsOpen opened.pool.access := by
    obtain ⟨t, there⟩ := Option.isSome_iff_exists.mp table
    refine ⟨t, congrArg Backing.database ?_, works⟩
    rw [← there]
  have answer : ∀ call (b : Backing), b.IsOpen opened.pool.access →
      (Backing.store.answer call b).2.IsOpen opened.pool.access :=
    fun call _ => Backing.isOpen_answer call
  have work : ∀ step ∈ steps, ∀ b : Backing, b.IsOpen opened.pool.access →
      (step.work b).IsOpen opened.pool.access :=
    fun step hstep _ => Step.work_open (spares step hstep)
  refine ⟨run_beside_restarts open_start spares, ?_, ?_⟩
  · intro taken htaken restart
    obtain ⟨hstep, s', open_then, came⟩ := step_of_run answer work open_start taken htaken
    rw [came, step_restart open_then (spares _ hstep) restart]
  · obtain ⟨t, last, -⟩ := run_keeps answer work open_start
    exact ⟨_, last, Disk.openDatabase_save opening inFile rfl rfl⟩

/-- The file is missing at first. The newest row is deleted right before the file is opened again,
    and the next link gets the id after it all the same. -/
theorem restarts_are_invisible_after_deletion :
    let steps : List Step := [.ensureTable, .make "http://a.b/", .make "http://c.d/", .delete 2,
      .reopen, .make "http://e.f/", .ensureTable, .ask (.insert "http://a.b/"), .reopen]
    let start : Session := ⟨.database .fresh, .none, .ofText ""⟩
    let t : Table := ⟨[⟨1, .ofUrl "http://a.b/"⟩, ⟨3, .ofUrl "http://e.f/"⟩], 3⟩
    let path : FilePath := ⟨false, ["links.db"]⟩
    (Disk.empty []).openDatabase "sqlite://links.db" = .ok ⟨.fresh, some path⟩ ∧
    (∀ step ∈ steps, step.Spares .ready) ∧
    (steps.filter fun step => !step.isRestart).length = 5 ∧
    start.besideRestarts steps = (start.run [.make "http://a.b/", .make "http://c.d/", .delete 2,
      .make "http://e.f/", .ask (.insert "http://a.b/")]).2 ∧
    ((Disk.empty []).save ⟨⟨⟨some t⟩, .ready⟩, some path⟩).openDatabase "sqlite://links.db" =
      .ok ⟨⟨⟨some t⟩, .ready⟩, some path⟩ := by
  intro steps start t path
  have opening : (Disk.empty []).openDatabase "sqlite://links.db" = .ok ⟨.fresh, some path⟩ := by
    decide +kernel
  have spares : ∀ step ∈ steps, step.Spares .ready := by
    simp [steps, Step.Spares]
  obtain ⟨same, -, p, last, again⟩ :=
    restarts_are_invisible opening rfl .none (.ofText "") steps spares
  have ends : (start.run steps).1.backing = .database ⟨⟨some t⟩, .ready⟩ := by decide +kernel
  cases last.symm.trans ends
  exact ⟨opening, spares, rfl, (congrArg Prod.snd same).symm, again⟩

end Session

end LinkLedger
