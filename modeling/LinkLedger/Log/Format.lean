import LinkLedger.Event
import LinkLedger.Json.Writer
import LinkLedger.Text.Quoted

/-!
# Log lines

An event is written on one line, for people or for programs: as words, with the fields behind the
message, or as a JSON object whose members are in alphabetical order. The time is put in by whoever
prints the line.
-/

set_option autoImplicit false

namespace LinkLedger.Log

open LinkLedger.Text LinkLedger.Json

inductive Format where
  | text
  | json
  deriving DecidableEq, Repr

def Format.name : Format → String
  | .text => "text"
  | .json => "json"

/-- The formats in the order in which they are offered. -/
def Format.all : List Format := [.text, .json]

/-- A field behind a message. -/
def fieldText (f : Field) : String :=
  s!" {f.name}={if f.isQuoted then quoted f.text else f.text}"

/-- An event as words. Levels are as wide as the widest of them. -/
def wordsLine (time : String) (event : Event) : String :=
  let level := event.level.name
  let indent := String.ofList (List.replicate (5 - level.length) ' ')
  let fields := String.join (event.fields.map fieldText)
  s!"{time} {indent}{level} {event.target}: {event.message}{fields}"

/-- A member of an object whose value is a string. -/
def member (name text : String) : List Char :=
  writeString name ++ ':' :: writeString text

/-- An object from its members as they are written. -/
def object (members : List (List Char)) : List Char :=
  '{' :: [','].intercalate members ++ ['}']

/-- The members of the object of fields: the message is one of them. -/
def fieldMembers (event : Event) : List (String × String) :=
  (("message", event.message) :: event.fields.map fun f => (f.name, f.text)).mergeSort
    fun a b => a.1 ≤ b.1

def objectLine (time : String) (event : Event) : String :=
  let fields := object ((fieldMembers event).map fun (name, text) => member name text)
  String.ofList (object
    [writeString "fields" ++ ':' :: fields, member "level" event.level.name,
      member "target" event.target, member "timestamp" time])

def Format.line (format : Format) (time : String) (event : Event) : String :=
  match format with
  | .text => wordsLine time event
  | .json => objectLine time event

end LinkLedger.Log
