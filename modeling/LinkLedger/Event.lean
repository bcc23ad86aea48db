import LinkLedger.LinkId
import LinkLedger.Refusal

/-!
# Events

What the program reports about its work while it works. Events are values: running a request gives
them in order beside the answer, and printing them is left to the log. Each kind of event fixes its
level, the place it comes from, its message and its fields.
-/

set_option autoImplicit false

namespace LinkLedger

/-- How much an event matters, from what only tracing shows up to errors. -/
inductive Level where
  | trace
  | debug
  | info
  | warn
  | error
  deriving DecidableEq, Repr

def Level.name : Level → String
  | .trace => "TRACE"
  | .debug => "DEBUG"
  | .info => "INFO"
  | .warn => "WARN"
  | .error => "ERROR"

/-- A field of an event. Texts that come from outside are put between quotes where the log is
written for people. -/
structure Field where
  name : String
  text : String
  isQuoted : Bool
  deriving DecidableEq, Repr

/-- What can be reported. -/
inductive Event where
  /-- The program opens its store. -/
  | opening (backend : String)
  /-- The server listens. -/
  | serving (address base : String)
  /-- The server stopped. -/
  | stopped
  /-- An id is about to be looked up. -/
  | resolving (id : LinkId)
  /-- The store is asked for the link with an id. -/
  | selecting (id : LinkId)
  | resolved (id : LinkId) (url : String)
  | unknown (id : LinkId)
  /-- The url had a link already. -/
  | reused (id : LinkId) (url : String)
  | created (id : LinkId) (url : String)
  /-- Somebody else stored the url between the look-up and the insertion. -/
  | raceLost (url : String)
  /-- The store has no link for a url that it refused to store twice. -/
  | winnerMissing (url : String)
  /-- A client is sent on to a url. -/
  | redirecting (id : LinkId) (url : String)
  /-- A request ended in a failure of the store. -/
  | storeFailed (failure : StoreFailure)
  deriving DecidableEq, Repr

/-- How much an event matters. -/
def Event.level : Event → Level
  | .opening _ | .serving _ _ | .stopped | .created _ _ => .info
  | .resolving _ | .selecting _ => .trace
  | .resolved _ _ | .unknown _ | .reused _ _ | .raceLost _ | .redirecting _ _ => .debug
  | .winnerMissing _ => .warn
  | .storeFailed _ => .error

/-- The part of the program that an event comes from, as log filters name it. -/
def Event.target : Event → String
  | .opening _ | .serving _ _ | .stopped => "permalink"
  | .resolving _ | .resolved _ _ | .unknown _ | .reused _ _ | .created _ _ | .raceLost _
  | .winnerMissing _ => "permalink_service::service"
  | .selecting _ => "permalink_storage::mysql"
  | .redirecting _ _ => "permalink_gateway::handlers::permalink"
  | .storeFailed _ => "permalink_gateway::error"

def Event.message : Event → String
  | .opening _ => "opening permalink store"
  | .serving _ _ => "starting permalink gateway"
  | .stopped => "permalink gateway stopped"
  | .resolving _ => "resolving permalink"
  | .selecting _ => "selecting permalink by id"
  | .resolved _ _ => "resolved permalink"
  | .unknown _ => "permalink not found"
  | .reused _ _ => "reusing existing permalink"
  | .created _ _ => "created permalink"
  | .raceLost _ => "lost insert race, looking up the winning permalink"
  | .winnerMissing _ => "insert conflicted but no permalink row was found"
  | .redirecting _ _ => "redirecting through permalink"
  | .storeFailed _ => "permalink storage failure"

def Field.ofId (id : LinkId) : Field := ⟨"id", id.text, false⟩

def Event.fields : Event → List Field
  | .opening backend => [⟨"storage_backend", backend, false⟩]
  | .serving address base => [⟨"listen_addr", address, false⟩, ⟨"base_url", base, false⟩]
  | .stopped => []
  | .resolving id | .selecting id | .unknown id => [.ofId id]
  | .resolved id url => [.ofId id, ⟨"url", url, false⟩]
  | .reused id url | .created id url | .redirecting id url => [.ofId id, ⟨"url", url, true⟩]
  | .raceLost url | .winnerMissing url => [⟨"url", url, true⟩]
  | .storeFailed failure => [⟨"error", failure.message, false⟩]

end LinkLedger
