/-!
# Media types

What a message says its body holds: a type and a subtype, with parameters behind them. A subtype may
end in a suffix that names the format it is built on, as in `application/geo+json`.

Only the question whether a body is JSON is answered here; parameters are checked for their form and
then ignored.
-/

set_option autoImplicit false

namespace LinkLedger.Http

/-- Whether a character may stand in a type, a subtype or the name of a parameter. -/
def isTokenChar (c : Char) : Bool := c.isAlphanum || "!#$%&'*+-.^_`|~".toList.contains c

/-! ## Parameters -/

/-- Where the reading of parameters stands. -/
inductive ParameterState where
  /-- Before a parameter. -/
  | start
  /-- In a name. -/
  | name
  /-- Behind the equals sign. -/
  | equals
  /-- In a value without quotes. -/
  | value
  /-- Behind an opening quote. -/
  | opened
  /-- In a value between quotes. -/
  | quoted
  /-- Behind a closing quote. -/
  | closed
  deriving DecidableEq, Repr

/-- Reads one more character. Blanks may stand before a parameter and behind a closing quote, and a
value between quotes has at least one character. -/
def ParameterState.step : ParameterState → Char → Option ParameterState
  | .start, c => if c = ' ' then some .start else if isTokenChar c then some .name else none
  | .name, c => if c = '=' then some .equals else if isTokenChar c then some .name else none
  | .equals, c => if c = '"' then some .opened else if isTokenChar c then some .value else none
  | .value, c => if c = ';' then some .start else if isTokenChar c then some .value else none
  | .opened, c => if isShown c then some .quoted else none
  | .quoted, c => if c = '"' then some .closed else if isShown c then some .quoted else none
  | .closed, c => if c = ';' then some .start else if c = ' ' then some .closed else none
where
  /-- Whether a character may stand between quotes. -/
  isShown (c : Char) : Bool := 0x20 ≤ c.toNat && c.toNat < 0x7F

/-- Whether the text may end here. -/
def ParameterState.mayEnd : ParameterState → Bool
  | .start | .equals | .value | .closed => true
  | .name | .opened | .quoted => false

/-- Whether a text has the form of parameters; it is what stands behind the first semicolon. -/
def areParameters (text : List Char) : Bool :=
  (text.foldlM ParameterState.step ParameterState.start).any ParameterState.mayEnd

/-! ## Types -/

/-- A media type without its parameters, in lower case. -/
structure MediaType where
  type : String
  /-- The subtype without its suffix. -/
  subtype : String
  suffix : Option String
  deriving DecidableEq, Repr

/-- Cuts a subtype at its last plus sign, unless it begins with that. -/
def cutSuffix (subtype : List Char) : List Char × Option (List Char) :=
  match (subtype.reverse.dropWhile (· ≠ '+')).drop 1 with
  | [] => (subtype, none)
  | front => (front.reverse, some (subtype.reverse.takeWhile (· ≠ '+')).reverse)

def MediaType.parse? (text : String) : Option MediaType :=
  let text := text.toList.map Char.toLower
  let type := text.takeWhile isTokenChar
  match text.dropWhile isTokenChar with
  | '/' :: rest =>
    let subtype := rest.takeWhile isTokenChar
    let parsed : MediaType :=
      let (front, suffix) := cutSuffix subtype
      ⟨String.ofList type, String.ofList front, suffix.map String.ofList⟩
    if type.isEmpty then none
    else match rest.dropWhile isTokenChar with
      | [] => some parsed
      | ';' :: parameters =>
        if !subtype.isEmpty && areParameters parameters then some parsed else none
      | _ => none
  | _ => none

/-- Whether a body of this type is JSON: `application/json`, or a subtype of `application` that is
built on JSON. -/
def MediaType.isJson (m : MediaType) : Bool :=
  m.type == "application" && (m.subtype == "json" || m.suffix == some "json")

end LinkLedger.Http
