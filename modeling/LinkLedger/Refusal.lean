import LinkLedger.LinkId

/-!
# Failures and refusals

Two layers of what can go wrong. A store fails in one of five ways, each with a detail in words. A
request for a permanent link is refused because its url is not accepted, because there is no link
with the id, or because the store failed.
-/

set_option autoImplicit false

namespace LinkLedger

/-! ## Failures of a store -/

inductive FailureKind where
  /-- The url is stored already. -/
  | conflict
  /-- The store cannot be reached. -/
  | unavailable
  /-- It did not answer in time. -/
  | timeout
  /-- It answered with an error. -/
  | query
  /-- What it holds cannot be a link. -/
  | invalidData
  deriving DecidableEq, Repr

structure StoreFailure where
  kind : FailureKind
  detail : String
  deriving DecidableEq, Repr

/-- What a kind of failure is called in messages. -/
def FailureKind.phrase : FailureKind → String
  | .conflict => "permalink already exists"
  | .unavailable => "storage backend unavailable"
  | .timeout => "storage operation timed out"
  | .query => "storage query failed"
  | .invalidData => "stored data is invalid"

def StoreFailure.message (f : StoreFailure) : String := s!"{f.kind.phrase}: {f.detail}"

/-! ## Refusals -/

/-- Why a request for a permanent link gets none. -/
inductive Refusal where
  | invalidUrl (reason : String)
  | notFound (id : LinkId)
  | store (failure : StoreFailure)
  deriving DecidableEq, Repr

def Refusal.message : Refusal → String
  | .invalidUrl reason => s!"invalid url: {reason}"
  | .notFound id => s!"permalink not found: {id}"
  | .store failure => s!"storage failure: {failure.message}"

end LinkLedger
