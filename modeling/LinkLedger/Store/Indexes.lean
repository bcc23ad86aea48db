import LinkLedger.Store.Ledger

/-!
# The ledger as two indexes

How the ledger in memory is really kept: an index from urls to ids, one from ids to urls, and a
counter. `Indexes.store` answers one question at a time, and `Indexes.ledger` is the ledger that the
indexes stand for.

Seen more closely, the index by url is cut into parts, each with a lock, and an insertion takes
several steps: it locks the part of its url and looks whether the url is there; if it is not, it
takes a number, then writes the url under the number, and last writes the number under the url and
gives the lock back. Look-ups take one step; a look-up by url waits while the part of that url is
locked. Tasks take turns as a schedule says.
-/

set_option autoImplicit false

namespace LinkLedger

/-- The two indexes, newest entry first, the next number, and the parts that are locked. -/
structure Indexes where
  byUrl : List (String × LinkId)
  byId : List (LinkId × String)
  next : LinkId
  locked : List Nat
  deriving DecidableEq, Repr

namespace Indexes

def empty : Indexes := ⟨[], [], ⟨1⟩, []⟩

def size (m : Indexes) : Nat := m.byId.length

/-- The id that the index by url has for a url. -/
def idOf? (m : Indexes) (url : String) : Option LinkId := m.byUrl.lookup url

/-- The link that the index by id has for an id. -/
def get? (m : Indexes) (id : LinkId) : Option Link := (m.byId.lookup id).map fun url => ⟨id, url⟩

/-- The ledger that the indexes stand for while no insertion is under way. -/
def ledger (m : Indexes) : Ledger := ⟨(m.byId.map fun (id, url) => ⟨id, url⟩).reverse, m.next⟩

/-- Writes a url down in one go, unless it is there already: it takes a number, writes the url under
the number, and the number under the url. -/
def insert (m : Indexes) (url : String) : Except StoreFailure LinkId × Indexes :=
  match m.idOf? url with
  | some _ => (.error ⟨.conflict, url⟩, m)
  | none =>
    (.ok m.next,
      { m with
        byUrl := (url, m.next) :: m.byUrl
        byId := (m.next, url) :: m.byId
        next := ⟨m.next.word + 1⟩ })

/-- The indexes as a store: one question at a time. It fails only if a url is there already. -/
def store : Store Indexes where
  answer
    | .findByUrl url, m => (.ok (m.idOf? url), m)
    | .insert url, m => m.insert url
    | .get id, m => (.ok (m.get? id), m)

def lock (m : Indexes) (part : Nat) : Indexes := { m with locked := part :: m.locked }

def unlock (m : Indexes) (part : Nat) : Indexes := { m with locked := m.locked.erase part }

end Indexes

/-! ## Tasks -/

-- Outcomes are compared nowhere but in tasks.
local instance : DecidableEq (Except StoreFailure LinkId)
  | .ok id, .ok id' => decidable_of_iff (id = id') ⟨congrArg _, Except.ok.inj⟩
  | .error failure, .error failure' =>
    decidable_of_iff (failure = failure') ⟨congrArg _, Except.error.inj⟩
  | .ok _, .error _ | .error _, .ok _ => isFalse nofun

/-- How far an insertion has come. -/
inductive Progress where
  /-- It has not begun, or waits for the lock. -/
  | waiting
  /-- It has the lock, and the url is not there. -/
  | holding
  | numbered (id : LinkId)
  | written (id : LinkId)
  | finished (outcome : Except StoreFailure LinkId)
  deriving DecidableEq, Repr

/-- A question to the indexes in progress. -/
inductive Task where
  | insert (url : String) (progress : Progress)
  | find (url : String) (answer : Option (Option LinkId))
  | get (id : LinkId) (answer : Option (Option Link))
  deriving DecidableEq, Repr

namespace Task

/-- The task that answers a question, about to begin. -/
def ofCall : Call → Task
  | .insert url => insert url .waiting
  | .findByUrl url => find url none
  | .get id => get id none

/-- One step of an insertion; `part` is the part of its url. -/
def stepInsert (part : Nat) (url : String) (m : Indexes) : Progress → Progress × Indexes
  | .waiting =>
    if m.locked.contains part then (.waiting, m)
    else match m.idOf? url with
      | some _ => (.finished (.error ⟨.conflict, url⟩), m)
      | none => (.holding, m.lock part)
  | .holding => (.numbered m.next, { m with next := ⟨m.next.word + 1⟩ })
  | .numbered id => (.written id, { m with byId := (id, url) :: m.byId })
  | .written id =>
    (.finished (.ok id), { m with byUrl := (url, id) :: m.byUrl }.unlock part)
  | .finished outcome => (.finished outcome, m)

/-- One step of a task; `partOf` tells the part of a url. -/
def step (partOf : String → Nat) (m : Indexes) : Task → Task × Indexes
  | insert url progress =>
    let (progress, m) := stepInsert (partOf url) url m progress
    (insert url progress, m)
  | find url none =>
    if m.locked.contains (partOf url) then (find url none, m) else (find url (some (m.idOf? url)), m)
  | get id none => (get id (some (m.get? id)), m)
  | task => (task, m)

/-- Whether a task is an insertion under way. -/
def isBusy : Task → Bool
  | insert _ .holding | insert _ (.numbered _) | insert _ (.written _) => true
  | _ => false

end Task

/-! ## Many tasks -/

/-- Tasks in progress on the same indexes. -/
structure Workload where
  tasks : List Task
  indexes : Indexes

namespace Workload

/-- Tasks that are all about to begin. -/
def start (calls : List Call) : Workload := ⟨calls.map Task.ofCall, .empty⟩

/-- Lets one task take a step. -/
def turn (partOf : String → Nat) (w : Workload) (i : Nat) : Workload :=
  match w.tasks[i]? with
  | none => w
  | some task =>
    let (task, indexes) := task.step partOf w.indexes
    ⟨w.tasks.set i task, indexes⟩

/-- Lets tasks take steps in the order of a schedule. -/
def run (partOf : String → Nat) (w : Workload) (schedule : List Nat) : Workload :=
  schedule.foldl (turn partOf) w

/-- Whether no insertion is under way. -/
def isQuiet (w : Workload) : Bool := !w.tasks.any Task.isBusy

end Workload

end LinkLedger
