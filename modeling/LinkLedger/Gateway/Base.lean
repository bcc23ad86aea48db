import LinkLedger.LinkId

/-!
# The public address of the gateway

Links to reports and permanent links hang off one address, as its query. The address may have a
query of its own; separators at its end mean nothing and are taken off, so that exactly one
separator stands between the address and what is appended.
-/

set_option autoImplicit false

namespace LinkLedger.Gateway

/-- The name of the parameter that follows a permanent link. -/
def followKey : String := "do_redir"

/-- The name of the parameter that makes a permanent link. -/
def makeKey : String := "make_redir"

/-- Whether a character separates an address from its query or a parameter from the next. -/
def isSeparator (c : Char) : Bool := c = '?' || c = '&'

/-- A public address without separators at its end. -/
structure Base where
  text : List Char
  deriving DecidableEq, Repr

namespace Base

def ofText (address : String) : Base := ⟨(address.toList.reverse.dropWhile isSeparator).reverse⟩

/-- What stands between the base and what is appended: a question mark if the base has no query. -/
def separator (b : Base) : Char := if b.text.contains '?' then '&' else '?'

/-- The url of the report with a query. -/
def target (b : Base) (query : List Char) : String :=
  String.ofList (b.text ++ b.separator :: query)

def permalink (b : Base) (id : LinkId) : String :=
  String.ofList (b.text ++ b.separator :: (followKey.toList ++ '=' :: id.text.toList))

end Base

end LinkLedger.Gateway
