import LinkLedger.Gateway.Handlers
import LinkLedger.Http.Wire
import LinkLedger.Invocation

/-!
# The gateway as a service

A gateway that runs: what it keeps the links in, under which address clients see it, and how its log
is written. A request takes it from one state to the next, with a response and the lines of the log
that go with it; requests are answered one at a time.

Whoever brings a network calls `answer` for each request, prints the lines and sends the response.
-/

set_option autoImplicit false

namespace LinkLedger

open LinkLedger.CommandLine LinkLedger.Http

/-- A gateway that runs. -/
structure Service where
  ready : Ready
  base : Gateway.Base
  store : OpenedStore

/-- What a request comes to. -/
structure Served where
  response : Response
  log : List String
  service : Service

namespace Service

/-- Opens the store of a gateway under a public address. -/
def start (ready : Ready) (base : String) (disk : Disk) : Except RunFailure Service :=
  (openStore ready.settings disk).map fun store => ⟨ready, .ofText base, store⟩

def answer (time : String) (s : Service) (r : Request) : Served :=
  let ran := (Gateway.respond s.base r).run Backing.store s.store.backing
  ⟨ran.value, s.ready.logLines time ran.events,
    { s with store := { s.store with backing := ran.state } }⟩

/-- The response to what is no request. -/
def toNonsense : Response := .empty .badRequest

/-- The disk as the service leaves it. -/
def saveTo (s : Service) (disk : Disk) : Disk := s.store.saveTo disk

end Service

end LinkLedger
