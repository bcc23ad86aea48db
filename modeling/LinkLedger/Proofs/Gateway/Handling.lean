import LinkLedger.Gateway.Handlers

/-!
# What becomes of a request

`Handling base r p` lists the programs that a request can be answered by, each with all that must
hold of the request: it is settled without a store, or it follows a link, shows one, makes one for a
query, or makes one for a url in a body. **`Handling.of_answer`: there are no others.** What holds
of every request is shown for these five.
-/

set_option autoImplicit false

namespace LinkLedger.Gateway

open LinkLedger.Http LinkLedger.Text

/-- Whether a reply needs no store. -/
def Reply.isSettled : Reply → Bool
  | .linked _ _ | .created _ _ | .shown _ | .redirect _ | .refused _ => false
  | .healthy | .rejected _ | .noRoute | .wrongMethod _ | .badSegment | .notJson | .bodyTooLarge
  | .unreadable _ => true

/-- The programs that a request can be answered by, and when. -/
inductive Handling (base : Base) (r : Request) : Program Reply → Prop
  /-- Nothing is asked of the store. -/
  | settled {reply : Reply} (plain : reply.isSettled = true) : Handling base r (.done reply)
  /-- The query asks to follow an id, whatever else it asks. -/
  | following {value : String} {id : LinkId} (path : Route.ofPath? r.path = some .report)
    (method : r.method ∈ Route.report.methods)
    (asked : valueOf? followKey (parameters r.query) = some value)
    (read : LinkId.parse value = .ok id) : Handling base r (follow id)
  /-- The path names an id. -/
  | displaying {segment : List Char} {text : String} {id : LinkId}
    (path : Route.ofPath? r.path = some (.link segment))
    (method : r.method ∈ (Route.link segment).methods)
    (decoded : String.fromUTF8? (percentDecode segment).toByteArray = some text)
    (read : LinkId.parse text = .ok id) : Handling base r (display id)
  /-- The query asks for a link and does not ask to follow one. -/
  | linking {value : String} {query : List Char} (path : Route.ofPath? r.path = some .report)
    (method : r.method ∈ Route.report.methods)
    (alone : valueOf? followKey (parameters r.query) = none)
    (asked : valueOf? makeKey (parameters r.query) = some value)
    (linked : linkQuery? (parameters r.query) value = some query) :
    Handling base r (make base (base.target query) .linked)
  /-- The body holds a url. -/
  | creating {url : String} (path : Route.ofPath? r.path = some .links)
    (method : r.method ∈ Route.links.methods) (json : r.saysJson = true)
    (short : r.body.size ≤ maxBodyBytes) (read : readRequest r.body = .ok url) :
    Handling base r (make base url .created)

/-! ## Requests to follow a link -/

theorem Route.path_of_report {path : List Char} (h : Route.ofPath? path = some .report) :
    path = ['/'] := by
  unfold ofPath? at h
  split at h
  · assumption
  split at h
  · cases h
  split at h
  · cases h
  dsimp only at h
  split at h <;> cases h

/-- A request for `/` with a query. -/
structure AsksReport (r : Request) (query : List Char) : Prop where
  path : r.path = ['/']
  method : r.method = .get
  query_eq : r.query = query

/-- A request to follow the id that a text writes. -/
structure AsksToFollow (r : Request) (value : String) : Prop where
  path : r.path = ['/']
  method : r.method = .get ∨ r.method = .head
  asked : valueOf? followKey (parameters r.query) = some value

theorem answer_of_asksToFollow {r : Request} {value : String} (base : Base)
    (h : AsksToFollow r value) : answer base r = withId value follow := by
  have route : Route.ofPath? r.path = some .report := by
    rw [h.path]
    rfl
  have method : r.method ∈ Route.report.methods := by simpa [Route.methods] using h.method
  simp only [answer, route, if_pos method, answerOn, answerQuery, h.asked]

/-! ## All requests -/

namespace Handling

variable {base : Base} {r : Request}

theorem of_answerQuery (path : Route.ofPath? r.path = some .report)
    (method : r.method ∈ Route.report.methods) : Handling base r (answerQuery base r.query) := by
  simp only [answerQuery]
  cases asked : valueOf? followKey (parameters r.query) with
  | some value =>
    simp only [withId]
    cases read : LinkId.parse value with
    | error fault => exact .settled rfl
    | ok id => exact .following path method asked read
  | none =>
    cases wanted : valueOf? makeKey (parameters r.query) with
    | none => exact .settled rfl
    | some value =>
      dsimp only
      cases linked : linkQuery? (parameters r.query) value with
      | none => exact .settled rfl
      | some query => exact .linking path method asked wanted linked

theorem of_answerPost (path : Route.ofPath? r.path = some .links)
    (method : r.method ∈ Route.links.methods) : Handling base r (answerPost base r) := by
  unfold answerPost
  by_cases json : r.saysJson = true
  · by_cases long : maxBodyBytes < r.body.size
    · simp only [json, long, if_true]
      exact .settled rfl
    · simp only [json, long, if_false]
      cases read : readRequest r.body with
      | error problem => exact .settled rfl
      | ok url => exact .creating path method json (Nat.not_lt.mp long) read
  · simp only [json]
    exact .settled rfl

theorem of_answerSegment {segment : List Char}
    (path : Route.ofPath? r.path = some (.link segment))
    (method : r.method ∈ (Route.link segment).methods) :
    Handling base r (answerSegment segment) := by
  unfold answerSegment
  cases decoded : String.fromUTF8? (percentDecode segment).toByteArray with
  | none => exact .settled rfl
  | some text =>
    simp only [withId]
    cases read : LinkId.parse text with
    | error fault => exact .settled rfl
    | ok id => exact .displaying path method decoded read

theorem of_answer (base : Base) (r : Request) : Handling base r (answer base r) := by
  unfold answer
  cases path : Route.ofPath? r.path with
  | none => exact .settled rfl
  | some route =>
    by_cases method : r.method ∈ route.methods
    · simp only [if_pos method]
      cases route with
      | report => exact of_answerQuery path method
      | health => exact .settled rfl
      | links => exact of_answerPost path method
      | link segment => exact of_answerSegment path method
    · simp only [if_neg method]
      exact .settled rfl

end Handling

end LinkLedger.Gateway
