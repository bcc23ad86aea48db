import LinkLedger.Event
import LinkLedger.Text.Decimal
import LinkLedger.Unicode.Alphanumeric
import LinkLedger.Unicode.Blank

/-!
# Log filters

Which events reach the log. A filter is a list of directives apart by commas. A directive is a
level, which holds for all targets, or names a target, and perhaps a span and fields between
brackets, with a level behind an equals sign; without one it lets everything through. A directive
covers the targets that begin with its own, so that `permalink=info` holds for `permalink_service`
as well.

Of the directives that cover an event the most specific one decides: a longer target beats a
shorter one, then more fields beat fewer. Events of this program happen outside of spans, so
directives that name a span or the value of a field cover none of them.
-/

set_option autoImplicit false

namespace LinkLedger.Log

open LinkLedger.Text LinkLedger.Unicode

/-! ## Levels -/

/-- How much is let through: nothing, or every event that is no more verbose than a level. -/
structure Limit where
  level : Option Level
  deriving DecidableEq, Repr

def verbosity : Level → Nat
  | .error => 1
  | .warn => 2
  | .info => 3
  | .debug => 4
  | .trace => 5

/-- The limits from the strictest to the most verbose one. -/
def limits : List Limit :=
  [⟨none⟩, ⟨some .error⟩, ⟨some .warn⟩, ⟨some .info⟩, ⟨some .debug⟩, ⟨some .trace⟩]

def Limit.allows (limit : Limit) (level : Level) : Bool :=
  limit.level.any fun most => verbosity level ≤ verbosity most

def Limit.name (limit : Limit) : String :=
  match limit.level with
  | none => "off"
  | some level => level.name.toLower

/-- The number that a text of digits writes; a plus sign may stand in front. -/
def readNumber? (text : List Char) : Option Nat :=
  let digits := if text.head? = some '+' then text.drop 1 else text
  if digits.isEmpty || !digits.all isDecimal then none else some (decimalNumber digits)

/-- Reads a limit: its number from zero for nothing to five for everything, or its name in small or
capital letters. -/
def Limit.parse? (text : List Char) : Option Limit :=
  match (readNumber? text).bind fun n => limits[n]? with
  | some limit => some limit
  | none => limits.find? fun limit => limit.name.toList = text.map Char.toLower

/-- The most verbose limit. -/
def Limit.everything : Limit := ⟨some .trace⟩

/-! ## Directives -/

/-- A field that a directive asks for. -/
structure FieldTest where
  name : String
  /-- Whether its value is asked for as well. -/
  hasValue : Bool
  deriving DecidableEq, Repr

/-- A directive. -/
structure Directive where
  target : Option String
  span : Option String
  fields : List FieldTest
  limit : Limit
  deriving DecidableEq, Repr

/-- What a directive of which nothing has been read yet would say. -/
def Directive.blank : Directive := ⟨none, none, [], .everything⟩

/-- Reads a field, which has a value if an equals sign stands in it. -/
def FieldTest.parse? (text : List Char) : Option FieldTest :=
  if text.isEmpty then none
  else some ⟨String.ofList (text.takeWhile (· ≠ '=')), text.contains '='⟩

/-- Where the reading of a directive stands. The numbers are where a part began. -/
inductive DirectiveState where
  | start
  | levelOrTarget (start : Nat)
  | span (start : Nat)
  | field (start : Nat)
  | fields
  | afterSpan
  | level (start : Nat)
  deriving DecidableEq, Repr

/-- The part of a text between two positions, as a string. -/
def part (text : List Char) (first last : Nat) : String :=
  String.ofList ((text.drop first).take (last - first))

/-- Whether a directive may begin with a character, other than a bracket. -/
def mayBegin (c : Char) : Bool := c == '-' || c == ':' || c == '_' || isAlphanumeric c

/-- Reads the character at position `i` of a directive. -/
def DirectiveState.step (text : List Char) (state : DirectiveState) (soFar : Directive) (i : Nat)
    (c : Char) : Option (DirectiveState × Directive) :=
  match state with
  | .start =>
    if c = '[' then some (.span (i + 1), soFar)
    else if mayBegin c then some (.levelOrTarget i, soFar)
    else none
  | .levelOrTarget first =>
    let named := { soFar with target := some (part text first i) }
    if c = '=' then some (.level (i + 1), named)
    else if c = '[' then some (.span (i + 1), named)
    else some (state, soFar)
  | .span first =>
    if c = ']' then some (.afterSpan, { soFar with span := some (part text first i) })
    else if c = '{' then
      let span := if first = i then none else some (part text first i)
      some (.field (i + 1), { soFar with span })
    else some (state, soFar)
  | .field first =>
    if c = '}' then
      (FieldTest.parse? ((text.drop first).take (i - first))).map fun field =>
        (.fields, { soFar with fields := soFar.fields ++ [field] })
    else some (state, soFar)
  | .fields => if c = ']' then some (.afterSpan, soFar) else none
  | .afterSpan => if c = '=' then some (.level (i + 1), soFar) else none
  | .level _ => some (state, soFar)

/-- What a directive says when its text ends. -/
def DirectiveState.finish (text : List Char) (soFar : Directive) :
    DirectiveState → Option Directive
  | .levelOrTarget first =>
    match Limit.parse? (text.drop first) with
    | some limit => some { soFar with limit }
    | none => some { soFar with target := some (String.ofList (text.drop first)) }
  | .level first =>
    match text.drop first with
    | [] => some soFar
    | limitName => (Limit.parse? limitName).map fun limit => { soFar with limit }
  | .afterSpan => some soFar
  | .start | .span _ | .field _ | .fields => none

/-- Reads a directive. Blanks at its ends are not looked at, though its parts are cut out of the
whole text by their positions. -/
def Directive.parse? (text : List Char) : Option Directive := do
  let seen := ((text.dropWhile isBlank).reverse.dropWhile isBlank).reverse
  let (state, soFar) ← seen.zipIdx.foldlM (fun (state, soFar) (c, i) =>
    DirectiveState.step text state soFar i c) (DirectiveState.start, Directive.blank)
  state.finish text soFar

/-- Whether a directive can cover events outside of spans. -/
def Directive.coversEvents (d : Directive) : Bool :=
  d.span.isNone && !d.fields.any FieldTest.hasValue

/-- Whether a directive covers an event: its target begins the event's, and the event has all its
fields. -/
def Directive.covers (d : Directive) (event : Event) : Bool :=
  let names := "message" :: event.fields.map Field.name
  d.coversEvents && d.target.all (fun target => target.toList.isPrefixOf event.target.toList)
    && d.fields.all fun field => names.contains field.name

/-- How specific a directive is: the length of its target, no target being less than any, and the
number of its fields. -/
def Directive.weight (d : Directive) : Nat × Nat :=
  (d.target.elim 0 fun target => target.utf8ByteSize + 1, d.fields.length)

/-- Whether the second directive decides where both cover an event; of two that are equally
specific the later one does. -/
def Directive.yields (first second : Directive) : Bool :=
  let (length₁, fields₁) := first.weight
  let (length₂, fields₂) := second.weight
  length₁ < length₂ || (length₁ == length₂ && fields₁ ≤ fields₂)

/-! ## Filters -/

/-- A filter: its directives in the order in which they were written. -/
structure Filter where
  directives : List Directive
  deriving DecidableEq, Repr

namespace Filter

/-- The filter that holds where no directive is given: errors only. -/
def errorsOnly : Filter := ⟨[{ Directive.blank with limit := ⟨some .error⟩ }]⟩

/-- Reads a filter. Empty directives are dropped. -/
def parse? (text : String) : Option Filter := do
  let parts := (text.toList.splitOn ',').filter (fun directive => !directive.isEmpty)
  match ← parts.mapM Directive.parse? with
  | [] => return errorsOnly
  | directives => return ⟨directives⟩

/-- The directive that decides about an event. -/
def deciding? (f : Filter) (event : Event) : Option Directive :=
  (f.directives.filter fun d => d.covers event).foldl (fun best d =>
    match best with
    | none => some d
    | some other => if other.yields d then some d else some other) none

/-- Whether an event reaches the log. An event that no directive covers does not. -/
def allows (f : Filter) (event : Event) : Bool :=
  (f.deciding? event).any fun d => d.limit.allows event.level

end Filter

end LinkLedger.Log
