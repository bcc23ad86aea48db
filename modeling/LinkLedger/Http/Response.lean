/-!
# Responses

A status, the three headers that responses of this program may carry, and a body of text.
-/

set_option autoImplicit false

namespace LinkLedger.Http

/-- What became of a request. -/
inductive Status where
  | ok
  | created
  | found
  | badRequest
  | notFound
  | methodNotAllowed
  | bodyTooLarge
  | unsupportedMediaType
  | unprocessableBody
  | internalError
  deriving DecidableEq, Repr

def Status.code : Status → Nat
  | .ok => 200
  | .created => 201
  | .found => 302
  | .badRequest => 400
  | .notFound => 404
  | .methodNotAllowed => 405
  | .bodyTooLarge => 413
  | .unsupportedMediaType => 415
  | .unprocessableBody => 422
  | .internalError => 500

structure Response where
  status : Status
  contentType : Option String := none
  location : Option String := none
  allow : Option String := none
  body : String := ""
  deriving DecidableEq, Repr

namespace Response

/-- A response without a body. -/
def empty (status : Status) : Response where
  status := status

def json (status : Status) (body : String) : Response where
  status := status
  contentType := some "application/json"
  body := body

/-- A response that holds plain text. -/
def plain (status : Status) (body : String) : Response where
  status := status
  contentType := some "text/plain; charset=utf-8"
  body := body

/-- What is left of a response when only its head was asked for. -/
def headOnly (r : Response) : Response := { r with body := "" }

end Response

/-- Whether a byte may stand in the value of a header: everything but controls, the tab excepted. -/
def isHeaderByte (b : UInt8) : Bool := (0x20 ≤ b && b ≠ 0x7F) || b = 0x09

def isHeaderValue (text : String) : Bool := text.toByteArray.toList.all isHeaderByte

end LinkLedger.Http
