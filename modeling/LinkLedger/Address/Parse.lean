import LinkLedger.Address.Host

/-!
# Reading addresses

An absolute url is read the way browsers read it: blanks and controls at its ends and tabs and line
ends anywhere are dropped first, the scheme ends at the first colon, and for the web's schemes any
number of slashes of either kind stands in front of the authority, which holds credentials, host
and port. What follows the authority never makes an address wrong and is not looked at.
-/

set_option autoImplicit false

namespace LinkLedger.Address

open LinkLedger.Text

/-! ## Cleaning up -/

/-- Controls below the space, and the space. -/
def isTrimmed (c : Char) : Bool := c.toNat ≤ 0x20

/-- Tabs and line ends, which are dropped wherever they stand. -/
def isDropped (c : Char) : Bool := c == '\t' || c == '\n' || c == '\r'

/-- The text that is read: without controls and spaces at its ends, without tabs and line ends. -/
def cleanUp (text : List Char) : List Char :=
  ((text.dropWhile isTrimmed).reverse.dropWhile isTrimmed).reverse.filter (fun c => !isDropped c)

/-! ## The scheme -/

/-- Letters, digits and three marks make up a scheme. -/
def isSchemeChar (c : Char) : Bool := c.isAlphanum || c == '+' || c == '-' || c == '.'

/-- The scheme in small letters, and what follows its colon. -/
def splitScheme? (text : List Char) : Option (List Char × List Char) :=
  match text with
  | c :: _ =>
    if c.isAlpha then
      match text.dropWhile isSchemeChar with
      | ':' :: rest => some ((text.takeWhile isSchemeChar).map Char.toLower, rest)
      | _ => none
    else none
  | [] => none

/-- How the rest of an address is read, which depends on its scheme. -/
inductive SchemeKind where
  /-- Always with an authority, after any number of slashes. -/
  | web
  | file
  | other
  deriving DecidableEq, Repr

/-- The kind of a scheme. -/
def SchemeKind.ofScheme (scheme : List Char) : SchemeKind :=
  match String.ofList scheme with
  | "http" | "https" | "ws" | "wss" | "ftp" => .web
  | "file" => .file
  | _ => .other

/-- The port that a scheme implies. -/
def defaultPort? (scheme : List Char) : Option Nat :=
  match String.ofList scheme with
  | "http" | "ws" => some 80
  | "https" | "wss" => some 443
  | "ftp" => some 21
  | _ => none

/-! ## The authority -/

/-- An address as far as it matters where it leads. -/
structure Target where
  scheme : String
  /-- None if the scheme gives no place for one, or the place is empty. -/
  host : Option Host
  /-- None if it is the one that the scheme implies. -/
  port : Option Nat
  deriving DecidableEq, Repr

/-- Slashes of either kind. -/
def isSlash (c : Char) : Bool := c == '/' || c == '\\'

/-- The characters that end an authority. A backslash is a slash on the web only. -/
def endsAuthority (kind : SchemeKind) (c : Char) : Bool :=
  c == '/' || c == '?' || c == '#' || (kind != .other && c == '\\')

/-- The credentials in front of the last `@`, if there is one, and what follows it. -/
def splitCredentials (authority : List Char) : Option (List Char) × List Char :=
  let rest := (authority.reverse.takeWhile (· ≠ '@')).reverse
  if rest.length = authority.length then (none, authority)
  else (some (authority.take (authority.length - rest.length - 1)), rest)

/-- The host, up to the first colon outside brackets, and what follows that colon. -/
def splitPort (bracketed : Bool) : List Char → List Char × Option (List Char)
  | [] => ([], none)
  | c :: rest =>
    if c = ':' ∧ !bracketed then ([], some rest)
    else
      let (host, port) := splitPort (if c = '[' then true else if c = ']' then false else bracketed)
        rest
      (c :: host, port)

/-- Reads a port. A backslash behind it begins the path; without digits the port is the implied
one. -/
def readPort (scheme text : List Char) : Except Fault (Option Nat) :=
  let digits := text.takeWhile isDecimal
  let port := decimalNumber digits
  match text.dropWhile isDecimal with
  | [] | '\\' :: _ =>
    if 65535 < port then .error .badPort
    else .ok (if digits.isEmpty || some port = defaultPort? scheme then none else some port)
  | _ => .error .badPort

/-- Reads an authority; `more` says that something follows it. Credentials want a host to go with,
unless they are empty. -/
def readAuthority (kind : SchemeKind) (scheme authority : List Char) (more : Bool) :
    Except Fault Target := do
  let (credentials, place) := splitCredentials authority
  if credentials = some [] ∧ place.isEmpty ∧ more then throw .emptyHost
  let (hostText, portText) := splitPort false place
  let host ← if kind = .web then
      if hostText.isEmpty then throw .emptyHost else Host.ofWeb hostText
    else Host.ofPlain hostText
  if hostText.isEmpty ∧ portText.isSome then throw .emptyHost
  let port ← match portText with
    | none => pure none
    | some text => readPort scheme text
  if hostText.isEmpty ∧ credentials.any (fun c => c ≠ [] ∧ c ≠ [':']) then throw .emptyHost
  return ⟨String.ofList scheme, if hostText.isEmpty then none else some host, port⟩

/-- The authority at the front of a text, and whether something follows it. -/
def takeAuthority (kind : SchemeKind) (text : List Char) : List Char × Bool :=
  (text.takeWhile (fun c => !endsAuthority kind c),
    !(text.dropWhile (fun c => !endsAuthority kind c)).isEmpty)

/-! ## Addresses -/

/-- Whether a text is a letter and a colon or bar, as drives are written. -/
def isDrive : List Char → Bool
  | [c, mark] => c.isAlpha && (mark == ':' || mark == '|')
  | _ => false

/-- Reads what follows `file:`. A host stands behind two slashes only, a drive is none, and
`localhost` is as good as none. -/
def readFile (scheme rest : List Char) : Except Fault Target :=
  let none_ : Target := ⟨String.ofList scheme, none, none⟩
  match rest with
  | a :: b :: text =>
    if isSlash a && isSlash b then
      let (hostText, _) := takeAuthority .file text
      if hostText.isEmpty || isDrive hostText then .ok none_
      else do
        match ← Host.ofWeb hostText with
        | .domain "localhost" => return none_
        | host => return { none_ with host := some host }
    else .ok none_
  | _ => .ok none_

/-- Reads an absolute url. -/
def parse (text : String) : Except Fault Target :=
  match splitScheme? (cleanUp text.toList) with
  | none => .error .noScheme
  | some (scheme, rest) =>
    match SchemeKind.ofScheme scheme with
    | .web =>
      let (authority, more) := takeAuthority .web (rest.dropWhile isSlash)
      readAuthority .web scheme authority more
    | .file => readFile scheme rest
    | .other =>
      match rest with
      | '/' :: '/' :: text =>
        let (authority, more) := takeAuthority .other text
        readAuthority .other scheme authority more
      | _ => .ok ⟨String.ofList scheme, none, none⟩

end LinkLedger.Address
