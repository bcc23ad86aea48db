import LinkLedger.Desk
import LinkLedger.Gateway.Parameter
import LinkLedger.Gateway.Reply

/-!
# Answering requests

What each route does, as a program over a store. Two rules of precedence: a query that asks to
follow a link is never taken as a request for one, and a body is looked at only if the request says
that it is JSON.

`respond` is the whole gateway. A request for the head of a response does all that the request for
the response does.
-/

set_option autoImplicit false

namespace LinkLedger.Gateway

open LinkLedger.Http LinkLedger.Json LinkLedger.Text

/-! ## Links -/

/-- Refuses a request. Failures of the store are reported, since the client is not told. -/
def refuse (refusal : Refusal) : Program Reply :=
  match refusal with
  | .store failure => .report (.storeFailed failure) (.done (.refused refusal))
  | .invalidUrl _ | .notFound _ => .done (.refused refusal)

/-- The failure of a store that holds a url which cannot be sent in a header. -/
def unsendable : StoreFailure :=
  ⟨.invalidData, "stored url is not a valid Location header: failed to parse header value"⟩

/-- Sends the client on to where an id leads. -/
def follow (id : LinkId) : Program Reply := do
  match ← Desk.resolve id with
  | .error refusal => refuse refusal
  | .ok url =>
    Program.note (.redirecting id url)
    if isHeaderValue url then return .redirect url
    else refuse (.store unsendable)

/-- Shows where an id leads. -/
def display (id : LinkId) : Program Reply := do
  match ← Desk.resolve id with
  | .error refusal => refuse refusal
  | .ok url => return .shown ⟨id, url⟩

/-- Makes a link and puts it, with the url that follows it, into a reply. -/
def make (base : Base) (url : String) (reply : Link → String → Reply) : Program Reply := do
  match ← Desk.make url with
  | .error refusal => refuse refusal
  | .ok id => return reply ⟨id, url⟩ (base.permalink id)

/-- Goes on with the id that a text writes. -/
def withId (text : String) (use : LinkId → Program Reply) : Program Reply :=
  match LinkId.parse text with
  | .error fault => .done (.rejected fault.message)
  | .ok id => use id

/-! ## Routes -/

/-- Answers a query: it follows a link, or it makes one. -/
def answerQuery (base : Base) (query : List Char) : Program Reply :=
  let ps := parameters query
  match valueOf? followKey ps with
  | some value => withId value follow
  | none =>
    match valueOf? makeKey ps with
    | none => .done (.rejected s!"expected a {makeKey} or {followKey} parameter")
    | some value =>
      match linkQuery? ps value with
      | none => .done (.rejected s!"{makeKey} needs query parameters to link to")
      | some query => make base (base.target query) .linked

def maxBodyBytes : Nat := 2 * 1024 * 1024

/-- What the body of a request for a link has to look like. -/
def requestShape : Shape := ⟨"CreatePermalinkRequest", [("url", .text)]⟩

/-- The url in the body of a request for a link. -/
def readRequest (body : ByteArray) : Except Located String := do
  match ← requestShape.readWhole (pieces body) with
  | [.text url] => return url
  | _ => throw ⟨.top, .missingField "url"⟩

/-- Makes a link to the url in the body of a request. -/
def answerPost (base : Base) (r : Request) : Program Reply :=
  if !r.saysJson then .done .notJson
  else if maxBodyBytes < r.body.size then .done .bodyTooLarge
  else
    match readRequest r.body with
    | .error problem => .done (.unreadable problem)
    | .ok url => make base url .created

/-- Shows the link that a segment of a path names. -/
def answerSegment (segment : List Char) : Program Reply :=
  match String.fromUTF8? (percentDecode segment).toByteArray with
  | none => .done .badSegment
  | some text => withId text display

/-- Answers a request on a route by a method that it answers to. -/
def answerOn (base : Base) (r : Request) : Route → Program Reply
  | .report => answerQuery base r.query
  | .health => .done .healthy
  | .links => answerPost base r
  | .link segment => answerSegment segment

def answer (base : Base) (r : Request) : Program Reply :=
  match Route.ofPath? r.path with
  | none => .done .noRoute
  | some route =>
    if r.method ∈ route.methods then answerOn base r route
    else .done (.wrongMethod route.methods)

/-! ## The gateway -/

def respond (base : Base) (r : Request) : Program Response := do
  let reply ← answer base r
  return if r.method = .head then reply.response.headOnly else reply.response

end LinkLedger.Gateway
