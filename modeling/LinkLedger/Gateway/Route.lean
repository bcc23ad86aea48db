import LinkLedger.Http.Request

/-!
# Routes

The places that requests can be sent to, and the methods that each answers to. Paths are compared
character by character, without undoing percent escapes; only the last segment of a link's path is
decoded, because it is data.
-/

set_option autoImplicit false

namespace LinkLedger.Gateway

open LinkLedger.Http

/-- A place that answers requests. -/
inductive Route where
  /-- Where links are followed and made by query. -/
  | report
  | health
  /-- All links. -/
  | links
  /-- One link; the segment that names it is kept as it was written. -/
  | link (segment : List Char)
  deriving DecidableEq, Repr

namespace Route

/-- The path of all links, and behind a slash the link with a name. -/
def linksPath : String := "/v1/permalinks"

/-- The route of a path. The segment of a link is not empty and has no slash. -/
def ofPath? (path : List Char) : Option Route :=
  if path = ['/'] then some .report
  else if path = "/health".toList then some .health
  else if path = linksPath.toList then some .links
  else
    let front := linksPath.toList ++ ['/']
    let segment := path.drop front.length
    if path.take front.length = front ∧ segment ≠ [] ∧ '/' ∉ segment then some (.link segment)
    else none

def methods : Route → List Method
  | .links => [.post]
  | .report | .health | .link _ => [.get, .head]

end Route

end LinkLedger.Gateway
