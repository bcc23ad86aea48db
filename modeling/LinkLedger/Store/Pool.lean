import LinkLedger.Store.Table

/-!
# A database behind connections

Statements need a connection. While the connections are closed or all taken, every statement fails
and the database stays as it is. An id that no key stands for is answered without a connection.

`Pool.store` is the table of links as a store: what the table answers, in terms of links and
failures of a store.
-/

set_option autoImplicit false

namespace LinkLedger

/-- Whether a statement gets a connection. -/
inductive Access where
  | ready
  /-- It does, but the database was opened for reading only. -/
  | readOnly
  /-- Every connection is taken. -/
  | held
  | closed
  deriving DecidableEq, Repr

/-- A database and the state of the connections to it. -/
structure Pool where
  database : Database
  access : Access
  deriving DecidableEq

namespace Pool

/-- Connections to a new database, with the table of links in it. -/
def fresh : Pool := ⟨Database.empty.ensureTable, .ready⟩

/-- What keeps statements from a connection. -/
def obstacle? (p : Pool) : Option SqlError :=
  match p.access with
  | .ready | .readOnly => none
  | .held => some .timedOut
  | .closed => some .closed

/-- What keeps statements from changing the database. -/
def writeObstacle? (p : Pool) : Option SqlError :=
  if p.access = .readOnly then some .readOnly else p.obstacle?

/-- Runs a statement that only reads, if there is a connection. -/
def reading {α : Type} (p : Pool) (statement : Database → Except SqlError α) :
    Except SqlError α :=
  match p.obstacle? with
  | some e => .error e
  | none => statement p.database

/-- Runs a statement that may change the database, if there is a connection. -/
def writing {α : Type} (p : Pool) (statement : Database → Except SqlError α × Database) :
    Except SqlError α × Pool :=
  match p.writeObstacle? with
  | some e => (.error e, p)
  | none =>
    let (outcome, database) := statement p.database
    (outcome, { p with database })

/-- The outcome of a statement as the outcome of a question to a store. -/
def outcome {α : Type} : Except SqlError α → Except StoreFailure α
  | .ok a => .ok a
  | .error e => .error e.failure

def findByUrl (p : Pool) (url : String) : Except SqlError (Option LinkId) :=
  p.reading fun d => d.idOf? url

def get (p : Pool) (id : LinkId) : Except SqlError (Option Link) :=
  match id.key? with
  | none => .ok none
  | some key => p.reading fun d => d.get? id key

/-- Inserts a url. That it is there already is a conflict; the key of a new row is its id. -/
def insert (p : Pool) (url : String) : Except StoreFailure LinkId × Pool :=
  let (inserted, p) := p.writing fun d => d.insert url
  match inserted with
  | .ok key => (outcome (LinkId.ofKey key), p)
  | .error (.notUnique _) => (.error ⟨.conflict, url⟩, p)
  | .error e => (.error e.failure, p)

/-- Makes the table if there is none. If there is one, nothing is written. -/
def ensureTable (p : Pool) : Except SqlError Unit × Pool :=
  if p.database.table.isSome then (p.reading fun _ => .ok (), p)
  else p.writing fun d => (.ok (), d.ensureTable)

/-- Takes the last free connection. -/
def hold (p : Pool) : Pool :=
  { p with access := if p.access = .ready then .held else p.access }

/-- Gives it back. -/
def release (p : Pool) : Pool :=
  { p with access := if p.access = .held then .ready else p.access }

/-- Closes the connections to the file, opens new ones, and makes the table if there is none. -/
def reopen (p : Pool) : Pool := ⟨p.database.ensureTable, .ready⟩

def store : Store Pool where
  answer
    | .findByUrl url, p => (outcome (p.findByUrl url), p)
    | .insert url, p => p.insert url
    | .get id, p => (outcome (p.get id), p)

end Pool

/-! ## A server that cannot be reached -/

/-- Connections to a database server that were closed before any was made: every question fails.
The server reports each look-up by id before it needs a connection. -/
def closedServer : Store Unit where
  answer call s := (call.failed SqlError.closed.failure, s)
  remarks
    | .get id, _ => [.selecting id]
    | _, _ => []

end LinkLedger
