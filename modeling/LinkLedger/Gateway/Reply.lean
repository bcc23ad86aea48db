import LinkLedger.Http.Response
import LinkLedger.Gateway.Route
import LinkLedger.Json.Problem
import LinkLedger.LinkJson
import LinkLedger.Refusal

/-!
# Replies

What the gateway has to say to a request, and how it is put into a response. A failure of the store
is not told to the client: its response is the same whatever failed.
-/

set_option autoImplicit false

namespace LinkLedger.Gateway

open LinkLedger.Http LinkLedger.Json

inductive Reply where
  | healthy
  /-- There is a link to what was asked for by query. -/
  | linked (link : Link) (permalink : String)
  /-- There is a link to the url that was sent. -/
  | created (link : Link) (permalink : String)
  /-- A link was asked for by its id. -/
  | shown (link : Link)
  /-- The client is sent on to a url. -/
  | redirect (url : String)
  /-- The request makes no sense, for a reason. -/
  | rejected (reason : String)
  | refused (refusal : Refusal)
  | noRoute
  /-- The route answers to other methods, which are these. -/
  | wrongMethod (allowed : List Method)
  /-- A segment of the path is no text. -/
  | badSegment
  | notJson
  | bodyTooLarge
  /-- The body is not the JSON that was expected. -/
  | unreadable (problem : Located)
  deriving DecidableEq, Repr

/-- A link and the url under which the gateway follows it, as JSON. -/
def linkJson (link : Link) (permalink : String) : String :=
  writeObject
    [("id", .number link.id.word.toNat), ("url", .string link.url), ("permalink", .string permalink)]

/-- A reason as JSON. -/
def errorJson (reason : String) : String := writeObject [("error", .string reason)]

def refusalResponse : Refusal → Response
  | .invalidUrl reason => .json .badRequest (errorJson (Refusal.invalidUrl reason).message)
  | .notFound id => .json .notFound (errorJson (Refusal.notFound id).message)
  | .store _ => .json .internalError (errorJson "internal storage error")

/-- The response to a body that is not the JSON that was expected. JSON of the wrong shape and texts
that are no JSON are told apart. -/
def unreadableResponse (problem : Located) : Response :=
  if problem.problem.category = .data then
    .plain .unprocessableBody
      s!"Failed to deserialize the JSON body into the target type: {problem.message}"
  else
    .plain .badRequest s!"Failed to parse the request body as JSON: {problem.message}"

def Reply.response : Reply → Response
  | .healthy => .json .ok (writeObject [("status", .string "ok")])
  | .linked link permalink => .json .ok (linkJson link permalink)
  | .created link permalink => .json .created (linkJson link permalink)
  | .shown link => .json .ok link.json
  | .redirect url => { Response.empty .found with location := some url }
  | .rejected reason => .json .badRequest (errorJson reason)
  | .refused refusal => refusalResponse refusal
  | .noRoute => .empty .notFound
  | .wrongMethod allowed =>
    { Response.empty .methodNotAllowed with
      allow := some (String.intercalate "," (allowed.map Method.name)) }
  | .badSegment => .plain .badRequest "Invalid URL: Invalid UTF-8 in `id`"
  | .notJson =>
    .plain .unsupportedMediaType "Expected request with `Content-Type: application/json`"
  | .bodyTooLarge =>
    .plain .bodyTooLarge "Failed to buffer the request body: length limit exceeded"
  | .unreadable problem => unreadableResponse problem

end LinkLedger.Gateway
