import LinkLedger.LinkId

/-!
# Permanent links

A link ties an id to the url it leads to, byte for byte as it was sent. Links are never changed or
taken back.
-/

set_option autoImplicit false

namespace LinkLedger

structure Link where
  id : LinkId
  url : String
  deriving DecidableEq, Repr

end LinkLedger
