import LinkLedger.Store.Table
import LinkLedger.Text.Form
import LinkLedger.Text.Quoted

/-!
# Urls of database files

Where the database of links is and how to open it: the path of a file behind `sqlite://`, or memory,
and parameters in a query. A path is percent-decoded; a parameter that is not known, or has a value
that is not, makes the url useless.
-/

set_option autoImplicit false

namespace LinkLedger

open LinkLedger.Text

inductive DatabasePlace where
  | memory
  /-- A file with this path; one without a name is a file of its own that nobody else sees. -/
  | file (path : String)
  deriving DecidableEq, Repr

/-- What a url says about a database. -/
structure DatabaseUrl where
  place : DatabasePlace
  readOnly : Bool := false
  /-- The file is promised never to change. -/
  immutable : Bool := false
  /-- How files are accessed, by name. -/
  fileSystem : Option String := none
  deriving DecidableEq, Repr

/-- Why a url is useless. -/
inductive DatabaseUrlFault where
  | pathNotText (fault : Utf8Fault)
  | unknownValue (name value : String)
  | unknownParameter (name : String)
  deriving DecidableEq, Repr

def DatabaseUrlFault.message : DatabaseUrlFault → String
  | .pathNotText fault => fault.message
  | .unknownValue name value => s!"unknown value {quoted value} for `{name}`"
  | .unknownParameter name => s!"unknown query parameter `{name}` while parsing connection URL"

/-- The failure of a store that cannot be opened because of its configuration. -/
def configurationFailure (reason : String) : StoreFailure :=
  ⟨.query, s!"error with configuration: {reason}"⟩

namespace DatabaseUrl

/-- A text without some text in front, however often that stands there. -/
def dropFront (front : List Char) (text : List Char) : List Char :=
  if _h : front ≠ [] ∧ front.isPrefixOf text then dropFront front (text.drop front.length) else text
termination_by text.length
decreasing_by
  have := List.isPrefixOf_iff_prefix.1 _h.2 |>.length_le
  have := List.length_pos_iff.2 _h.1
  simp only [List.length_drop]
  omega

/-- The place that the part in front of the parameters names. -/
def placeOf (text : List Char) : Except DatabaseUrlFault DatabasePlace :=
  if text = ":memory:".toList then .ok .memory
  else
    let bytes := (percentDecode text).toByteArray
    match String.fromUTF8? bytes with
    | some path => .ok (.file path)
    | none => .error (.pathNotText ((fault? bytes).getD ⟨0, 1, false⟩))

/-- The url with one more parameter. -/
def withParameter (u : DatabaseUrl) (p : Form.Field) : Except DatabaseUrlFault DatabaseUrl :=
  match p.key, p.value with
  | "mode", "ro" => .ok { u with readOnly := true }
  | "mode", "rw" | "mode", "rwc" => .ok u
  | "mode", "memory" => .ok { u with place := .memory }
  | "cache", "private" | "cache", "shared" => .ok u
  | "immutable", "true" | "immutable", "1" => .ok { u with immutable := true }
  | "immutable", "false" | "immutable", "0" => .ok { u with immutable := false }
  | "vfs", name => .ok { u with fileSystem := some name }
  | "mode", value | "cache", value | "immutable", value => .error (.unknownValue p.key value)
  | name, _ => .error (.unknownParameter name)

/-- The path of the file that opening the database touches, if there is one. -/
def file? (u : DatabaseUrl) : Option String :=
  match u.place with
  | .memory => none
  | .file path => if path.isEmpty || path.toList.contains '\x00' then none else some path

/-- Whether opening the database makes its file if that is missing. -/
def makesFile (u : DatabaseUrl) : Bool := !u.readOnly && !u.immutable

def parse (url : String) : Except DatabaseUrlFault DatabaseUrl := do
  let text := dropFront "sqlite:".toList (dropFront "sqlite://".toList url.toList)
  let place ← placeOf (text.takeWhile (· ≠ '?'))
  (Form.parse ((text.dropWhile (· ≠ '?')).drop 1)).foldlM withParameter { place := place }

end DatabaseUrl

end LinkLedger
