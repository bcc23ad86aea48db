import LinkLedger.Http.Request
import LinkLedger.Http.Response
import LinkLedger.Http.Uri
import LinkLedger.Text.Decimal
import LinkLedger.Text.Hex

/-!
# Messages on a connection

How requests are read from the bytes of a connection, and how responses are written to it. A
connection carries one request and the response to it, and then it is closed.

A request is a head and a body. The head is lines of text up to an empty one: what is asked for, then
the headers. The body is as long as the headers say, or it comes in chunks, each behind a line with
its length, the last of which is empty. Bytes behind it are not looked at.
-/

set_option autoImplicit false

namespace LinkLedger.Http

open LinkLedger.Text

/-! ## Lines -/

/-- Carriage return and line feed. -/
def lineEnd : List UInt8 := [13, 10]

/-- Cuts bytes at the first place where some bytes stand, in front of it and behind it. -/
def cutAt? (mark : List UInt8) : List UInt8 → Option (List UInt8 × List UInt8)
  | [] => none
  | b :: bytes =>
    if mark.isPrefixOf (b :: bytes) then some ([], (b :: bytes).drop mark.length)
    else (cutAt? mark bytes).map fun (front, behind) => (b :: front, behind)

/-- What lies behind the first place where some bytes stand is not longer than the whole. -/
theorem cutAt?_length {mark bytes front behind : List UInt8}
    (h : cutAt? mark bytes = some (front, behind)) : behind.length ≤ bytes.length := by
  induction bytes generalizing front with
  | nil => simp [cutAt?] at h
  | cons b bytes ih =>
    rw [cutAt?] at h
    split at h
    · simp only [Option.some.injEq, Prod.mk.injEq] at h
      rw [← h.2, List.length_drop]
      omega
    · obtain ⟨⟨front', behind'⟩, hcut, heq⟩ := Option.map_eq_some_iff.1 h
      simp only [Prod.mk.injEq] at heq
      obtain ⟨_, rfl⟩ := heq
      exact Nat.le_succ_of_le (ih hcut)

/-- Bytes as text, if they are. -/
def textOf? (bytes : List UInt8) : Option (List Char) :=
  (String.fromUTF8? bytes.toByteArray).map String.toList

/-! ## Heads -/

/-- A text without blanks and tabs at its ends. -/
def trimBlanks (text : List Char) : List Char :=
  let isBlank (c : Char) : Bool := c == ' ' || c == '\t'
  ((text.dropWhile isBlank).reverse.dropWhile isBlank).reverse

/-- Reads a header: a name, a colon, a value. -/
def header? (line : List Char) : Option (String × String) :=
  let name := line.takeWhile isTokenChar
  match line.dropWhile isTokenChar with
  | ':' :: value =>
    if name.isEmpty then none else some (String.ofList name, String.ofList (trimBlanks value))
  | _ => none

def versions : List String := ["HTTP/1.1", "HTTP/1.0"]

/-- Reads the head of a request from its lines; the body is still missing. -/
def requestHead? (lines : List (List Char)) : Option Request :=
  match lines with
  | [] => none
  | first :: others =>
    match first.splitOn ' ' with
    | [method, target, version] =>
      let target := String.ofList target
      let isAsked := !method.isEmpty && method.all isTokenChar
        && versions.contains (String.ofList version) && (checkUri target).isOk
      if isAsked then
        (others.mapM header?).map fun headers =>
          ⟨.ofName (String.ofList method), target, headers, .empty⟩
      else none
    | _ => none

/-! ## Bodies -/

/-- What the bytes that have come so far are. -/
inductive Intake (α : Type) where
  /-- The beginning of something. -/
  | unfinished
  /-- The beginning of nothing that makes sense. -/
  | malformed
  | whole (value : α)

/-- Reads the length of a chunk; what stands behind a semicolon is not looked at. -/
def chunkLength? (line : List UInt8) : Option Nat := do
  let digits := trimBlanks ((← textOf? line).takeWhile (· ≠ ';'))
  if digits.isEmpty || 15 < digits.length || !digits.all isHexDigit then none
  else some (hexNumber digits)

/-- Reads a body in chunks behind what has been read of it. -/
def readChunks (body bytes : List UInt8) : Intake (List UInt8) :=
  match _cut : cutAt? lineEnd bytes with
  | none => .unfinished
  | some (line, behind) =>
    match chunkLength? line with
    | none => .malformed
    | some 0 => .whole body
    | some (n + 1) =>
      if behind.length < n + 1 + lineEnd.length then .unfinished
      else readChunks (body ++ behind.take (n + 1)) (behind.drop (n + 1 + lineEnd.length))
termination_by bytes.length
decreasing_by
  have := cutAt?_length _cut
  simp only [List.length_drop, lineEnd, List.length_cons, List.length_nil] at *
  omega

/-- Reads the body that the headers of a request announce. -/
def readBody (r : Request) (bytes : List UInt8) : Intake (List UInt8) :=
  if (r.header? "transfer-encoding").isSome then readChunks [] bytes
  else
    match r.header? "content-length" with
    | none => .whole []
    | some length =>
      let digits := length.toList
      if digits.isEmpty || !digits.all isDecimal then .malformed
      else if bytes.length < decimalNumber digits then .unfinished
      else .whole (bytes.take (decimalNumber digits))

/-! ## Requests -/

def maxHeadBytes : Nat := 65536

def headLines? (head : List UInt8) : Option (List (List Char)) :=
  (textOf? head).map fun text => (text.filter (· ≠ '\r')).splitOn '\n'

/-- Reads a request from what has come over a connection so far. -/
def Request.ofBytes (bytes : List UInt8) : Intake Request :=
  match cutAt? (lineEnd ++ lineEnd) bytes with
  | none => if maxHeadBytes < bytes.length then .malformed else .unfinished
  | some (head, behind) =>
    match (headLines? head).bind requestHead? with
    | none => .malformed
    | some r =>
      match readBody r behind with
      | .unfinished => .unfinished
      | .malformed => .malformed
      | .whole body => .whole { r with body := body.toByteArray }

/-! ## Responses -/

def Status.phrase : Status → String
  | .ok => "OK"
  | .created => "Created"
  | .found => "Found"
  | .badRequest => "Bad Request"
  | .notFound => "Not Found"
  | .methodNotAllowed => "Method Not Allowed"
  | .bodyTooLarge => "Payload Too Large"
  | .unsupportedMediaType => "Unsupported Media Type"
  | .unprocessableBody => "Unprocessable Entity"
  | .internalError => "Internal Server Error"

/-- A response as it is sent. Without a body its length is not mentioned, since the head alone may
have been asked for. -/
def Response.wire (r : Response) : String :=
  let header (name : String) (value : Option String) : List String :=
    match value with
    | none => []
    | some value => [s!"{name}: {value}"]
  let lines := s!"HTTP/1.1 {decimalText r.status.code} {r.status.phrase}"
    :: header "content-type" r.contentType ++ header "location" r.location
    ++ header "allow" r.allow
    ++ header "content-length"
      (if r.body.isEmpty then none else some (decimalText r.body.utf8ByteSize))
    ++ ["connection: close", "", ""]
  String.intercalate "\r\n" lines ++ r.body

end LinkLedger.Http
