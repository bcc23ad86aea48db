import LinkLedger.Http.MediaType

/-!
# Requests

A request as it arrives: a method, a target, headers and a body of bytes. The target names a path
and a query; both are kept as they were written, percent escapes included.
-/

set_option autoImplicit false

namespace LinkLedger.Http

/-- What a client wants done. Names are compared letter for letter. -/
inductive Method where
  | get
  | head
  | post
  | other (name : String)
  deriving DecidableEq, Repr

def Method.ofName (name : String) : Method :=
  if name = "GET" then .get
  else if name = "HEAD" then .head
  else if name = "POST" then .post
  else .other name

def Method.name : Method → String
  | .get => "GET"
  | .head => "HEAD"
  | .post => "POST"
  | .other name => name

structure Request where
  method : Method
  target : String
  headers : List (String × String)
  body : ByteArray

namespace Request

/-! ## The target -/

/-- The part of a target from its path on: a target that starts with a scheme and a host is cut
behind these, and its path is `/` if it has none. -/
def fromPath (target : List Char) : List Char :=
  if target.head? = some '/' then target
  else
    match target.dropWhile (· ≠ ':') with
    | ':' :: '/' :: '/' :: rest =>
      let rest := rest.dropWhile fun c => c ≠ '/' && c ≠ '?' && c ≠ '#'
      if rest.head? = some '/' then rest else '/' :: rest
    | _ => []

/-- The path and the query with its question mark; what follows a `#` is neither. -/
def pathAndQuery (r : Request) : List Char :=
  (fromPath r.target.toList).takeWhile (· ≠ '#')

def path (r : Request) : List Char := r.pathAndQuery.takeWhile (· ≠ '?')

/-- The query, empty if there is none. -/
def query (r : Request) : List Char := (r.pathAndQuery.dropWhile (· ≠ '?')).drop 1

/-! ## Headers -/

/-- Whether two header names are the same; letter case makes no difference. -/
def sameName (a b : String) : Bool := a.toList.map Char.toLower == b.toList.map Char.toLower

/-- The first header with a name. -/
def header? (r : Request) (name : String) : Option String :=
  (r.headers.find? fun header => sameName header.1 name).map Prod.snd

def saysJson (r : Request) : Bool :=
  ((r.header? "content-type").bind MediaType.parse?).any MediaType.isJson

end Request

end LinkLedger.Http
