/-!
# Uris

The check that a text is a uri before a connection is made to it: an absolute uri, a path, or an
authority alone. An authority has at most one colon outside of credentials and brackets, and percent
signs in the credentials or a zone only. Paths and queries may hold some characters that strictly
should be escaped, and everything outside ASCII.
-/

set_option autoImplicit false

namespace LinkLedger.Http

inductive UriFault where
  | empty
  | tooLong
  | badCharacter
  | badAuthority
  | badForm
  | schemeTooLong
  deriving DecidableEq, Repr

def UriFault.message : UriFault → String
  | .empty => "empty string"
  | .tooLong => "uri too long"
  | .badCharacter => "invalid uri character"
  | .badAuthority => "invalid authority"
  | .badForm => "invalid format"
  | .schemeTooLong => "scheme too long"

/-! ## Authorities -/

/-- What has been seen of an authority. -/
structure AuthorityState where
  colons : Nat := 0
  opened : Bool := false
  closed : Bool := false
  percent : Bool := false
  endsInAt : Bool := false

/-- Whether a character may stand in an authority besides those that have a part of their own. -/
def isAuthorityChar (c : Char) : Bool := c.isAlphanum || "!$&'()*+,-.;=_~".toList.contains c

/-- Reads one more character of an authority. What stands in front of an at sign or between brackets
does not count against the host and the port. -/
def AuthorityState.step (s : AuthorityState) (c : Char) : Except UriFault AuthorityState :=
  let s := { s with endsInAt := c == '@' }
  if c = ':' then
    if 8 ≤ s.colons then .error .badAuthority else .ok { s with colons := s.colons + 1 }
  else if c = '[' then
    if s.percent || s.opened then .error .badAuthority else .ok { s with opened := true }
  else if c = ']' then
    if !s.opened || s.closed then .error .badAuthority
    else .ok { s with closed := true, colons := 0, percent := false }
  else if c = '@' then .ok { s with colons := 0, percent := false }
  else if c = '%' then .ok { s with percent := true }
  else if isAuthorityChar c then .ok s
  else .error .badCharacter

def endsAuthority (c : Char) : Bool := c == '/' || c == '?' || c == '#'

/-- Checks an authority and gives what follows it. -/
def checkAuthority (text : List Char) : Except UriFault (List Char) := do
  let s ← (text.takeWhile fun c => !endsAuthority c).foldlM AuthorityState.step {}
  if s.opened != s.closed || 1 < s.colons || s.endsInAt || s.percent then throw .badAuthority
  return text.dropWhile fun c => !endsAuthority c

/-! ## Paths and queries -/

def isPathChar (c : Char) : Bool :=
  0x20 < c.toNat && !"#<>?`".toList.contains c

def isQueryChar (c : Char) : Bool :=
  0x20 < c.toNat && !"\"#<>".toList.contains c

/-- Checks a path and the query behind it; nothing behind a `#` is looked at. -/
def checkPath (text : List Char) : Except UriFault Unit :=
  let text := text.takeWhile (· ≠ '#')
  let query := (text.dropWhile (· ≠ '?')).drop 1
  if (text.takeWhile (· ≠ '?')).all isPathChar && query.all isQueryChar then .ok ()
  else .error .badCharacter

/-! ## Whole uris -/

def maxSchemeLength : Nat := 64

def maxUriBytes : Nat := 65534

/-- What stands behind the scheme of an absolute uri, if the text begins with one. -/
def behindScheme? (text : List Char) : Except UriFault (Option (List Char)) :=
  let isSchemeChar (c : Char) : Bool := c.isAlphanum || c == '+' || c == '-' || c == '.'
  let scheme := text.takeWhile isSchemeChar
  match text.drop scheme.length with
  | ':' :: '/' :: '/' :: rest =>
    if maxSchemeLength < scheme.length then .error .schemeTooLong else .ok (some rest)
  | _ => .ok none

def checkUri (uri : String) : Except UriFault Unit := do
  let text := uri.toList
  if maxUriBytes < uri.utf8ByteSize then throw .tooLong
  if text = [] then throw .empty
  if text = ['*'] then return
  if text.head? = some '/' then checkPath text
  else
    match ← behindScheme? text with
    | some rest =>
      let path ← checkAuthority rest
      if path.length = rest.length then throw .badForm
      checkPath path
    | none =>
      let rest ← checkAuthority text
      if rest ≠ [] then throw (if text.length = 1 then .badCharacter else .badForm)

end LinkLedger.Http
