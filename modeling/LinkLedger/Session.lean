import LinkLedger.Gateway.Handlers
import LinkLedger.Store.Backing
import LinkLedger.Store.Faults

/-!
# Sessions

One store in use: requests go to it through a faulty layer, over the gateway or not; questions may
also be put to it directly; and its table, if it has one, may be worked on behind everybody's back.
A session is run step by step, and each step has an outcome and the events that were reported
meanwhile.
-/

set_option autoImplicit false

namespace LinkLedger

open LinkLedger.Http LinkLedger.Gateway

/-- A store in use, the faults planned between it and the requests, and the address of the
gateway. -/
structure Session where
  backing : Backing
  faults : FaultPlan
  base : Base
  deriving DecidableEq

/-! ## Steps and outcomes -/

/-- What can be done in a session. -/
inductive Step where
  /-- Asks for the link to a url. -/
  | make (url : String)
  | resolve (id : LinkId)
  /-- Asks for the links to several urls at a time, then resolves them. -/
  | makeTogether (urls : List String)
  /-- Sends a request to the gateway. -/
  | send (request : Request)
  /-- Asks the store directly. -/
  | ask (call : Call)
  | size
  /-- Plans a fault. -/
  | plan (kind : CallKind) (fault : Fault)
  | ensureTable
  | plant (key : Int) (cell : Cell)
  | delete (key : Int)
  | dropTable
  /-- Closes the connections for good. -/
  | close
  /-- Takes the last free connection. -/
  | hold
  | release
  /-- Closes the connections and opens the file again. -/
  | reopen

/-- What came of several requests that were sent at a time. -/
structure Together where
  /-- The ids in ascending order, one for each request that got one. -/
  ids : List LinkId
  refusals : List Refusal
  /-- Whether every id leads to the url it was given for. -/
  leadsBack : Bool
  deriving DecidableEq

/-- What came of a step. -/
inductive Outcome where
  | made (result : Except Refusal LinkId)
  | resolved (result : Except Refusal String)
  | together (result : Together)
  | response (response : Response)
  | inserted (result : Except StoreFailure LinkId)
  | found (result : Except StoreFailure (Option LinkId))
  | got (result : Except StoreFailure (Option Link))
  | counted (result : Except StoreFailure Size)
  | done (result : Except StoreFailure Unit)

/-- The outcome of a question as the outcome of a step. -/
def Outcome.ofAnswer : (call : Call) → call.Outcome → Outcome
  | .findByUrl _, result => found result
  | .insert _, result => inserted result
  | .get _, result => got result

/-! ## Several requests at a time -/

/-- Asks for links one by one and keeps each url with its result. In whatever order the requests
reach the store, equal urls get the same id and different urls different ones, and the new ids are
the next ones; so all orders have the same outcome up to the order of the ids. -/
def makeAll : List String → Program (List (String × Except Refusal LinkId))
  | [] => return []
  | url :: urls => do
    let result ← Desk.make url
    return (url, result) :: (← makeAll urls)

/-- Whether ids lead to the urls they were given for. -/
def leadBack : List (String × LinkId) → Program Bool
  | [] => return true
  | (url, id) :: rest => do
    let back := match ← Desk.resolve id with
      | .ok found => found == url
      | .error _ => false
    return back && (← leadBack rest)

/-- Asks for links to all urls and follows those that were made. -/
def makeTogether (urls : List String) : Program Together := do
  let results ← makeAll urls
  let made := results.filterMap fun
    | (url, .ok id) => some (url, id)
    | (_, .error _) => none
  let refusals := results.filterMap fun
    | (_, .ok _) => none
    | (_, .error refusal) => some refusal
  let ids := (made.map Prod.snd).mergeSort fun a b => a.word ≤ b.word
  return ⟨ids, refusals, ← leadBack made⟩

/-! ## Running -/

namespace Session

def start (backing : Backing) (base : Base) : Session := ⟨backing, .none, base⟩

/-- Runs a request through the faulty layer. -/
def request {α : Type} (s : Session) (p : Program α) (outcome : α → Outcome) :
    Ran Outcome Session :=
  let ran := p.run Backing.store.faulty (s.backing, s.faults)
  ⟨outcome ran.value, { s with backing := ran.state.1, faults := ran.state.2 }, ran.events⟩

/-- What came of some work on the table. -/
def worked (s : Session) (work : Except StoreFailure Unit × Backing) : Ran Outcome Session :=
  ⟨.done work.1, { s with backing := work.2 }, []⟩

def step (s : Session) : Step → Ran Outcome Session
  | .make url => s.request (Desk.make url) .made
  | .resolve id => s.request (Desk.resolve id) .resolved
  | .makeTogether urls => s.request (LinkLedger.makeTogether urls) .together
  | .send request => s.request (respond s.base request) .response
  | .ask call =>
    let (outcome, backing) := Backing.store.answer call s.backing
    ⟨.ofAnswer call outcome, { s with backing }, Backing.store.remarks call s.backing⟩
  | .size => ⟨.counted s.backing.size, s, []⟩
  | .plan kind fault => ⟨.done (.ok ()), { s with faults := s.faults.push kind fault }, []⟩
  | .ensureTable => s.worked s.backing.ensureTable
  | .plant key cell => s.worked (s.backing.onTable fun t => t.plant key cell)
  | .delete key => s.worked (s.backing.onTable fun t => (.ok (), t.delete key))
  | .dropTable => s.worked s.backing.dropTable
  | .close => s.worked (.ok (), s.backing.onPool fun p => { p with access := .closed })
  | .hold => s.worked (.ok (), s.backing.onPool Pool.hold)
  | .release => s.worked (.ok (), s.backing.onPool Pool.release)
  | .reopen => s.worked (.ok (), s.backing.onPool Pool.reopen)

/-- Takes steps in order: the session afterwards, and what came of each. -/
def run (s : Session) : List Step → Session × List (Outcome × List Event)
  | [] => (s, [])
  | first :: more =>
    let ran := s.step first
    let (after, rest) := run ran.state more
    (after, (ran.value, ran.events) :: rest)

end Session

end LinkLedger
