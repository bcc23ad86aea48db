import LinkLedger.Address.Parse
import LinkLedger.Store.DatabaseUrl

/-!
# Urls of database servers

What can be wrong with the address of a database server before it is called: it may be no address,
its credentials may be no text, and two of its parameters are checked.
-/

set_option autoImplicit false

namespace LinkLedger

open LinkLedger.Text LinkLedger.Address

inductive ServerUrlFault where
  | notAddress (cause : Address.Fault)
  | credentialsNotText (fault : Utf8Fault)
  | unknownEncryption (value : String)
  /-- The number of statements to keep is no number, for a reason in words. -/
  | badCapacity (reason : String)
  deriving DecidableEq, Repr

/-- The failure of a store whose address this is the fault of. -/
def ServerUrlFault.failure : ServerUrlFault → StoreFailure
  | .notAddress cause => configurationFailure cause.message
  | .credentialsNotText fault => configurationFailure fault.message
  | .unknownEncryption value =>
    configurationFailure (configurationFailure s!"unknown value {quoted value} for `ssl_mode`").detail
  | .badCapacity reason => configurationFailure reason

namespace ServerUrl

/-- Checks that something percent-encoded is text. -/
def checkText (encoded : List Char) : Except ServerUrlFault Unit :=
  match fault? (percentDecode encoded).toByteArray with
  | none => .ok ()
  | some fault => .error (.credentialsNotText fault)

def credentials (text : List Char) : List Char :=
  match splitScheme? text with
  | none => []
  | some (scheme, rest) =>
    let kind := SchemeKind.ofScheme scheme
    let authority (text : List Char) : List Char :=
      ((splitCredentials (takeAuthority kind text).1).1).getD []
    match kind, rest with
    | .web, _ => authority (rest.dropWhile isSlash)
    | .other, '/' :: '/' :: text => authority text
    | _, _ => []

/-- The ways to encrypt a connection. -/
def encryptions : List String :=
  ["disabled", "preferred", "required", "verify_ca", "verify_identity"]

/-- Numbers of statements are below this. -/
def capacityBound : Nat := 18446744073709551616

def checkCapacity (text : List Char) : Except ServerUrlFault Unit :=
  let digits := if text.head? = some '+' ∧ 1 < text.length then text.drop 1 else text
  if digits.isEmpty then .error (.badCapacity "cannot parse integer from empty string")
  else if !digits.all isDecimal then .error (.badCapacity "invalid digit found in string")
  else if capacityBound ≤ decimalNumber digits then
    .error (.badCapacity "number too large to fit in target type")
  else .ok ()

def checkParameter (p : Form.Field) : Except ServerUrlFault Unit :=
  match p.key with
  | "sslmode" | "ssl-mode" =>
    if encryptions.contains (String.ofList (p.value.toList.map Char.toLower)) then .ok ()
    else .error (.unknownEncryption p.value)
  | "statement-cache-capacity" => checkCapacity p.value.toList
  | _ => .ok ()

def check (url : String) : Except ServerUrlFault Unit := do
  match Address.parse url with
  | .error cause => throw (.notAddress cause)
  | .ok _ =>
    let text := cleanUp url.toList
    let secrets := credentials text
    checkText (secrets.takeWhile (· ≠ ':'))
    checkText ((secrets.dropWhile (· ≠ ':')).drop 1)
    let query := (text.takeWhile (· ≠ '#')).dropWhile (· ≠ '?')
    (Form.parse (query.drop 1)).forM checkParameter

end ServerUrl

end LinkLedger
