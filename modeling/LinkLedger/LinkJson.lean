import LinkLedger.Json.Record
import LinkLedger.Json.Writer
import LinkLedger.Link

/-!
# Ids and links as JSON

An id is a plain number. A link is an object with its id and its url, and may be read from an array
of the two as well.
-/

set_option autoImplicit false

namespace LinkLedger

open LinkLedger.Text LinkLedger.Json

def LinkId.json (id : LinkId) : String := id.text

def LinkId.ofJson (text : String) : Except Problem LinkId :=
  (readWholeWord (piecesOf text)).map LinkId.mk

def Link.shape : Shape := ⟨"PermalinkEntry", [("id", .word), ("url", .text)]⟩

def Link.json (link : Link) : String :=
  writeObject [("id", .number link.id.word.toNat), ("url", .string link.url)]

def Link.ofJson (text : String) : Except Located Link := do
  match ← Link.shape.readWhole (piecesOf text) with
  | [.word id, .text url] => return ⟨⟨id⟩, url⟩
  | _ => throw ⟨.top, .missingField "id"⟩

end LinkLedger
