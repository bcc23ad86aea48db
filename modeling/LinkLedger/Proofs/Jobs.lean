import LinkLedger.Invocation

/-!
# Jobs from the command line

A job is to make a link or to resolve an id, in a database in the working directory. A run of the
program asks for one if its command line says so and the environment says nothing about the log
(`Invocation.AsksFor`); the environment may say anything else.

**Such a run is carried out** (`Invocation.AsksFor.prepare_eq`): the operand is taken as it stands,
the log is the usual one, and the command is the job's. The operand must not begin with a dash,
which would make it an option.
-/

set_option autoImplicit false

namespace LinkLedger

open LinkLedger.CommandLine

/-! ## Operands -/

namespace CommandLine

/-- A word that begins with no dash. -/
def Undashed (word : String) : Prop := word.toList.head? ≠ some '-'

instance : DecidablePred Undashed := fun word =>
  inferInstanceAs (Decidable (word.toList.head? ≠ some '-'))

theorem Undashed.toList_ne {word : String} (h : Undashed word) (rest : List Char) :
    word.toList ≠ '-' :: rest := by
  intro dashed
  exact h (by rw [dashed]; rfl)

theorem Undashed.longOption?_eq {word : String} (h : Undashed word) : longOption? word = none := by
  unfold longOption?
  split
  · next dashed => exact absurd dashed (h.toList_ne _)
  · rfl

theorem Undashed.shortOption?_eq {word : String} (h : Undashed word) :
    shortOption? word = none := by
  unfold shortOption?
  split
  · next dashed => exact absurd dashed (h.toList_ne _)
  · rfl

/-- Behind a command that takes an operand, a word that begins with no dash is that operand, even if
    it is the name of a command. -/
theorem readScope_undashed {name : CommandName} (takes : name.operand?.isSome = true)
    {word : String} (h : Undashed word) :
    readScope (.command name) {} [word] = .ok ({ operand := some word }, none) := by
  have noEnd : word ≠ "--" := by
    rintro rfl
    exact h rfl
  simp [readScope, readOperand, h.longOption?_eq, h.shortOption?_eq, noEnd, Scope.operand?, takes,
    bind, Except.bind]

end CommandLine

/-! ## Jobs -/

/-- What is asked for. -/
inductive Job where
  | make (url : String)
  | resolve (text : String)

namespace Job

def command : Job → Command
  | make url => .make url
  | resolve text => .resolve text

def name : Job → CommandName
  | make _ => .make
  | resolve _ => .resolve

def operand : Job → String
  | make url => url
  | resolve text => text

def path : String := "permalinks.db"

def databaseUrl : String := "sqlite://permalinks.db"

def arguments (job : Job) : List String :=
  ["--storage", "sqlite", "--sqlite-url", databaseUrl, job.name.name, job.operand]

/-- The settings for a job. The address of a database server makes no difference. -/
def settings (job : Job) (server : Option String) : Settings where
  storage := .sqlite
  mysqlDsn := server
  sqliteUrl := some databaseUrl
  logFormat := .text
  logLevel := "info"
  collector := none
  command := job.command

theorem readScope_arguments (job : Job) :
    readScope .outer {} job.arguments =
      .ok (⟨{ storage := some .sqlite }, none, some (.sqliteUrl, some databaseUrl), false⟩,
        some (job.name, [job.operand])) := by
  cases job <;> rfl

theorem readCommand_operand (env : Environment) {job : Job} (undashed : Undashed job.operand) :
    readCommand env job.name [job.operand] = .ok job.command := by
  have takes : job.name.operand?.isSome = true := by cases job <;> rfl
  unfold readCommand
  rw [readScope_undashed takes undashed]
  cases job <;> rfl

end Job

/-! ## The usual log -/

namespace CommandLine

/-- No variable says anything about the log. -/
def UsualLog (env : Environment) : Prop :=
  ∀ name ∈ filterVariable :: [Key.logFormat, .logLevel, .collector].map Key.variableName,
    env.lookup name = none

instance : DecidablePred UsualLog := fun env =>
  List.decidableBAll (fun name => env.lookup name = none) _

/-- Of the options in front of the command, the variables stand in for one at most: the address of
    a database server. -/
theorem UsualLog.fillFrom_eq {env : Environment} (h : UsualLog env) (url : String) :
    Given.fillFrom env Scope.outer.keys { storage := some .sqlite, sqliteUrl := some url } =
      .ok { storage := some .sqlite, sqliteUrl := some url,
            mysqlDsn := env.lookup Key.mysqlDsn.variableName } := by
  have format : env.lookup Key.logFormat.variableName = none := h _ (by simp)
  have level : env.lookup Key.logLevel.variableName = none := h _ (by simp)
  have collector : env.lookup Key.collector.variableName = none := h _ (by simp)
  cases server : env.lookup Key.mysqlDsn.variableName with
  | none => simp [Given.fillFrom, Scope.keys, Given.has, format, level, collector, server]
  | some address =>
    simp [Given.fillFrom, Scope.keys, Given.has, format, level, collector, server, Given.take,
      Given.put?, bind, Except.bind]

end CommandLine

namespace Log

/-- The filter that lets through what informs and what is worse. -/
def usualFilter : Filter := ⟨[⟨none, none, [], ⟨some .info⟩⟩]⟩

theorem parse?_info : Filter.parse? "info" = some usualFilter := by decide +kernel

theorem allows_usualFilter (event : Event) :
    usualFilter.allows event = decide (event.level ∈ [.error, .warn, .info]) := by
  have covers : ∀ d ∈ usualFilter.directives, d.covers event = true := by
    intro d hd
    obtain rfl := List.mem_singleton.mp hd
    rfl
  rw [Filter.allows, Filter.deciding?, List.filter_eq_self.mpr covers]
  cases event <;> rfl

def usualLines (time : String) (events : List Event) : List String :=
  (events.filter fun event => event.level ∈ [.error, .warn, .info]).map (wordsLine time)

end Log

theorem Ready.logLines_usual (job : Job) (server : Option String) (time : String)
    (events : List Event) :
    Ready.logLines ⟨job.settings server, Log.usualFilter⟩ time events =
      Log.usualLines time events := by
  rw [Ready.logLines, funext Log.allows_usualFilter]
  rfl

/-! ## Runs that ask for a job -/

namespace Invocation

/-- A run asks for a job, and the environment leaves the log alone. -/
structure AsksFor (i : Invocation) (job : Job) : Prop where
  arguments_eq : i.arguments = job.arguments
  undashed : Undashed job.operand
  usualLog : UsualLog i.environment

namespace AsksFor

variable {i : Invocation} {job : Job}

theorem parse_eq (h : i.AsksFor job) :
    parse i.environment i.arguments =
      .ok (job.settings (i.environment.lookup Key.mysqlDsn.variableName)) := by
  -- The url of the database is checked last, when the command has been read.
  have settled : Reading.settle
      ⟨{ storage := some .sqlite }, none, some (.sqliteUrl, some Job.databaseUrl), false⟩ =
        .ok ⟨{ storage := some .sqlite, sqliteUrl := some Job.databaseUrl }, none, none, false⟩ :=
    rfl
  rw [h.arguments_eq, parse, Job.readScope_arguments]
  simp only [bind, Except.bind, Job.readCommand_operand _ h.undashed, Except.map, settled,
    h.usualLog.fillFrom_eq]
  rfl

/-- **A run that asks for a job is carried out**, with the usual log. -/
theorem prepare_eq (h : i.AsksFor job) :
    i.prepare =
      .ok ⟨job.settings (i.environment.lookup Key.mysqlDsn.variableName), Log.usualFilter⟩ := by
  have unset : i.environment.lookup filterVariable = none := h.usualLog _ (by simp)
  have log : ∀ server, setUpLog (job.settings server) i.environment = .ok Log.usualFilter := by
    intro server
    simp [setUpLog, Log.Config.filter, unset, logConfig, Job.settings, Log.parse?_info]
  rw [prepare, h.parse_eq]
  simp only [log]

end AsksFor

end Invocation

end LinkLedger
