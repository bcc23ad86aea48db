import LinkLedger.Gateway.Base
import LinkLedger.Text.Form

/-!
# The parameters of a query

A query is cut into its parameters, each kept as it was written beside its decoded key and value:
keys are compared decoded, and what a link is made of is what was written.
-/

set_option autoImplicit false

namespace LinkLedger.Gateway

open LinkLedger.Text

/-- A parameter: the text as written, and the field that it writes. -/
structure Parameter where
  raw : List Char
  field : Form.Field
  deriving DecidableEq, Repr

namespace Parameter

def ofText (raw : List Char) : Parameter := ⟨raw, .ofText raw⟩

/-- Whether the decoded key is this one. -/
def hasKey (key : String) (p : Parameter) : Bool := p.field.key == key

end Parameter

def parameters (query : List Char) : List Parameter := (Form.rawFields query).map Parameter.ofText

/-- The decoded value of the first parameter with a key. -/
def valueOf? (key : String) (ps : List Parameter) : Option String :=
  (ps.find? (Parameter.hasKey key)).map fun p => p.field.value

/-- The parameters other than those that ask for a link, as they were written. -/
def keptParameters (ps : List Parameter) : List (List Char) :=
  (ps.filter fun p => !p.hasKey makeKey).map Parameter.raw

/-- The query that a request for a link links to: its other parameters, or, if there are none, the
value of the parameter that asked for the link, without separators in front. There may be none. -/
def linkQuery? (ps : List Parameter) (value : String) : Option (List Char) :=
  match keptParameters ps with
  | [] =>
    match value.toList.dropWhile isSeparator with
    | [] => none
    | query => some query
  | kept => some (['&'].intercalate kept)

end LinkLedger.Gateway
