import LinkLedger.CommandLine.Help
import LinkLedger.CommandLine.Parse
import LinkLedger.Http.Uri
import LinkLedger.Log.Config
import LinkLedger.Desk
import LinkLedger.Store.Backing
import LinkLedger.Store.Disk
import LinkLedger.Store.ServerUrl

/-!
# Running the program

One run from the command line: the settings are read, the log is set up, the store is opened, and
the command is carried out. The log goes to the same place as the result. A run that fails prints
why and ends with one; a command line that is not carried out ends as `CommandLine.Stop` says.

`Invocation.run` is a function of the command line, the environment and the disk, and gives the disk
back as it leaves it, so runs can be put in a row. Its parts stand for themselves: `prepare` comes
before anything is opened, and `carryOutOn` is what a run with settings does.
-/

set_option autoImplicit false

namespace LinkLedger

open LinkLedger.CommandLine LinkLedger.Http

/-- A run that is asked for. -/
structure Invocation where
  arguments : List String
  environment : Environment

/-- What a run prints, and what it ends with. -/
structure Printed where
  output : List String
  errors : List String
  code : Nat
  deriving DecidableEq, Repr

/-! ## Failures -/

inductive RunFailure where
  | log (fault : Log.Fault)
  /-- The address of the collector is none. -/
  | collector (address : String) (fault : UriFault)
  /-- The storage needs an address that is not there. -/
  | noAddress (storage : Storage)
  /-- The store cannot be opened. -/
  | notOpened (failure : StoreFailure)
  | refused (refusal : Refusal)
  | badId (fault : IdFault)
  /-- The gateway cannot listen at its address, for a reason in words. -/
  | cannotListen (reason : String)
  deriving DecidableEq, Repr

namespace RunFailure

/-- What is behind a failure, in words, if it has a cause of its own. -/
def cause? : RunFailure → Option String
  | log .badFilter => some "invalid filter directive"
  | collector address fault => some s!"invalid URI {address}. Reason {fault.message}"
  | refused (.store failure) => some failure.message
  | _ => none

def message : RunFailure → String
  | log .badFilter => "invalid log filter: invalid filter directive"
  | collector address fault =>
    s!"failed to build otlp exporter: invalid URI {address}. Reason {fault.message}"
  | noAddress .mysql => "mysql dsn is required when storage backend is mysql"
  | noAddress .sqlite => "sqlite url is required when storage backend is sqlite"
  | noAddress .inMemory => ""
  | notOpened failure => failure.message
  | refused refusal => refusal.message
  | badId fault => fault.message
  | cannotListen reason => reason

def lines (f : RunFailure) : List String :=
  s!"Error: {f.message}" ::
    match f.cause? with
    | none => []
    | some cause => ["", "Caused by:", s!"    {cause}"]

end RunFailure

/-! ## The log -/

def logConfig (s : Settings) : Log.Config where
  serviceName := "permalink"
  format := s.logFormat
  defaultFilter := s.logLevel
  collector := s.collector

def filterVariable : String := "RUST_LOG"

/-- The variables that a run looks at. -/
def variableNames : List String :=
  filterVariable :: (Scope.outer.keys ++ (Scope.command .serve).keys).map Key.variableName

/-- Sets up the log. An empty address of a collector stands for the usual one. -/
def setUpLog (s : Settings) (env : Environment) : Except RunFailure Log.Filter :=
  match (logConfig s).filter (env.lookup filterVariable) with
  | .error fault => .error (.log fault)
  | .ok filter =>
    match s.collector.filter (· ≠ "") with
    | none => .ok filter
    | some address =>
      match checkUri address with
      | .error fault => .error (.collector address fault)
      | .ok () => .ok filter

/-! ## The store -/

/-- An opened store: what keeps the links, and where it is put back after the run. -/
structure OpenedStore where
  backing : Backing
  file : Option FilePath

/-- Opens the store. A database server is never reached. -/
def openStore (s : Settings) (disk : Disk) : Except RunFailure OpenedStore :=
  match s.storage with
  | .inMemory => .ok ⟨.memory .empty, none⟩
  | .mysql =>
    match s.mysqlDsn with
    | none => .error (.noAddress .mysql)
    | some dsn =>
      match ServerUrl.check dsn with
      | .error fault => .error (.notOpened fault.failure)
      | .ok () => .error (.notOpened SqlError.timedOut.failure)
  | .sqlite =>
    match s.sqliteUrl with
    | none => .error (.noAddress .sqlite)
    | some url =>
      match disk.openDatabase url with
      | .error failure => .error (.notOpened failure)
      | .ok opened => .ok ⟨.database opened.pool, opened.file⟩

/-- The database that the settings name, if they do and its url makes sense. -/
def databaseOf (s : Settings) : Option DatabaseUrl :=
  match s.storage, s.sqliteUrl with
  | .sqlite, some url => (DatabaseUrl.parse url).toOption
  | _, _ => none

def OpenedStore.saveTo (o : OpenedStore) (disk : Disk) : Disk :=
  match o.backing with
  | .database pool => disk.save ⟨pool, o.file⟩
  | _ => disk

/-! ## Commands -/

/-- The reason of a machine that has no addresses. -/
def noNetwork : String := "Cannot assign requested address (os error 99)"

/-- Carries a command out: the text that is its result. There is no network here, so the gateway
cannot listen; `Service` is the gateway for those who bring one. -/
def carryOut : Command → Program (Except RunFailure String)
  | .make url => do
    match ← Desk.make url with
    | .error refusal => return .error (.refused refusal)
    | .ok id => return .ok id.text
  | .resolve text =>
    match LinkId.parse text with
    | .error fault => return .error (.badId fault)
    | .ok id => do
      match ← Desk.resolve id with
      | .error refusal => return .error (.refused refusal)
      | .ok url => return .ok url
  | .serve _ _ => return .error (.cannotListen noNetwork)

/-- What is left of a run: the events in order, what became of it, and the disk. -/
structure Course where
  events : List Event
  result : Except RunFailure String
  disk : Disk

/-- Opens the store and carries the command out. -/
def carryOutOn (s : Settings) (disk : Disk) : Course :=
  let opening := Event.opening s.storage.name
  match openStore s disk with
  | .error failure => ⟨[opening], .error failure, disk⟩
  | .ok opened =>
    let ran := (carryOut s.command).run Backing.store opened.backing
    ⟨opening :: ran.events, ran.value, OpenedStore.saveTo ⟨ran.state, opened.file⟩ disk⟩

/-! ## Whole runs -/

/-- A run with its settings read and its log set up. -/
structure Ready where
  settings : Settings
  filter : Log.Filter

/-- The lines of the log for some events; `time` is put in front of each. -/
def Ready.logLines (r : Ready) (time : String) (events : List Event) : List String :=
  (events.filter r.filter.allows).map (r.settings.logFormat.line time)

/-- What a run with a result or a failure prints behind its log. -/
def Printed.ofResult (log : List String) : Except RunFailure String → Printed
  | .ok text => ⟨log ++ [text], [], 0⟩
  | .error failure => ⟨log, failure.lines, 1⟩

/-- What a command line that is not carried out prints. -/
def Printed.ofStop (env : Environment) (stop : Stop) : Printed :=
  let lines := stop.lines env
  if stop.exitCode = 0 then ⟨lines, [], 0⟩ else ⟨[], lines, stop.exitCode⟩

/-- Carries the command out and prints the log and the result. -/
def Ready.run (time : String) (r : Ready) (disk : Disk) : Printed × Disk :=
  let course := carryOutOn r.settings disk
  (.ofResult (r.logLines time course.events) course.result, course.disk)

namespace Invocation

/-- Reads the command line and sets up the log; a run that ends with that prints something. -/
def prepare (i : Invocation) : Except Printed Ready :=
  match parse i.environment i.arguments with
  | .error stop => .error (.ofStop i.environment stop)
  | .ok settings =>
    match setUpLog settings i.environment with
    | .error failure => .error (.ofResult [] (.error failure))
    | .ok filter => .ok ⟨settings, filter⟩

/-- Runs the program; `time` is put in front of the lines of the log. -/
def run (time : String) (i : Invocation) (disk : Disk) : Printed × Disk :=
  match i.prepare with
  | .error printed => (printed, disk)
  | .ok ready => ready.run time disk

/-- Runs the program several times in a row on one disk. -/
def runAll (time : String) : List Invocation → Disk → List Printed
  | [], _ => []
  | first :: more, disk =>
    let (printed, disk) := first.run time disk
    printed :: runAll time more disk

end Invocation

end LinkLedger
