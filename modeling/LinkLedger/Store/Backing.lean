import LinkLedger.Store.Indexes
import LinkLedger.Store.Pool

/-!
# What keeps the links

The three ways of keeping links behind one store: two indexes in memory, a table in a database, and
a database server that cannot be reached. The table can be worked on directly as well; the other two
have nothing to work on, and such work leaves them as they are.
-/

set_option autoImplicit false

namespace LinkLedger

/-- What keeps the links. -/
inductive Backing where
  | memory (indexes : Indexes)
  | database (pool : Pool)
  | closedServer
  deriving DecidableEq

/-- How many links are kept, as far as that can be told. -/
inductive Size where
  | links (n : Nat)
  | rows (n : Nat)
  | unknown
  deriving DecidableEq, Repr

namespace Backing

def store : Store Backing where
  answer call
    | memory m => let (outcome, m) := Indexes.store.answer call m; (outcome, memory m)
    | database p => let (outcome, p) := Pool.store.answer call p; (outcome, database p)
    | closedServer => ((LinkLedger.closedServer.answer call ()).1, closedServer)
  remarks call
    | memory m => Indexes.store.remarks call m
    | database p => Pool.store.remarks call p
    | closedServer => LinkLedger.closedServer.remarks call ()

def size (b : Backing) : Except StoreFailure Size :=
  match b with
  | memory m => .ok (.links m.size)
  | database p => (Pool.outcome (p.reading Database.rowCount)).map Size.rows
  | closedServer => .ok .unknown

/-- Works on the table directly, if there is a connection. -/
def onTable (b : Backing) (statement : Table → Except SqlError Unit × Table) :
    Except StoreFailure Unit × Backing :=
  match b with
  | database p =>
    let (outcome, p) := p.writing fun d => d.writing statement
    (Pool.outcome outcome, database p)
  | _ => (.ok (), b)

/-- Drops the table, if there is a connection. -/
def dropTable (b : Backing) : Except StoreFailure Unit × Backing :=
  match b with
  | database p =>
    let (outcome, p) := p.writing fun d => (.ok (), d.dropTable)
    (Pool.outcome outcome, database p)
  | _ => (.ok (), b)

/-- Makes the table of links if there is none. The server would have to be asked. -/
def ensureTable (b : Backing) : Except StoreFailure Unit × Backing :=
  match b with
  | memory _ => (.ok (), b)
  | database p =>
    let (outcome, p) := p.ensureTable
    (Pool.outcome outcome, database p)
  | closedServer => (.error SqlError.closed.failure, b)

/-- Changes the state of the connections. -/
def onPool (b : Backing) (change : Pool → Pool) : Backing :=
  match b with
  | database p => database (change p)
  | _ => b

end Backing

end LinkLedger
