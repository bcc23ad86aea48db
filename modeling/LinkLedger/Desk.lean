import LinkLedger.Address.Check
import LinkLedger.Program

/-!
# Making and resolving permanent links

The two things that the program is for. Making a link looks the url up first and inserts it only if
it is not there, so a url has one link however often it is sent. Two requests may look a new url up
before either inserts it; the store then refuses the second insertion, and the second request looks
the url up once more and answers with the link of the first.
-/

set_option autoImplicit false

namespace LinkLedger.Desk

/-- Finds the link that made an insertion fail. -/
def lookUpWinner (url : String) : Program (Except Refusal LinkId) :=
  .ask (.findByUrl url) fun
    | .error failure => .done (.error (.store failure))
    | .ok (some id) => .done (.ok id)
    | .ok none =>
      .report (.winnerMissing url)
        (.done (.error (.store ⟨.invalidData, s!"conflicting permalink disappeared: {url}"⟩)))

/-- Inserts a url that was not found. -/
def insertNew (url : String) : Program (Except Refusal LinkId) :=
  .ask (.insert url) fun
    | .ok id => .report (.created id url) (.done (.ok id))
    | .error failure =>
      if failure.kind = .conflict then .report (.raceLost url) (lookUpWinner url)
      else .done (.error (.store failure))

/-- The id of the link to a url, which is made if there is none. A url that is not accepted is
refused before the store is asked anything. -/
def make (url : String) : Program (Except Refusal LinkId) :=
  match checkUrl url with
  | .error fault => .done (.error (.invalidUrl fault.message))
  | .ok () =>
    .ask (.findByUrl url) fun
      | .error failure => .done (.error (.store failure))
      | .ok (some id) => .report (.reused id url) (.done (.ok id))
      | .ok none => insertNew url

/-- The url that an id leads to. -/
def resolve (id : LinkId) : Program (Except Refusal String) :=
  .report (.resolving id) <| .ask (.get id) fun
    | .error failure => .done (.error (.store failure))
    | .ok (some link) => .report (.resolved id link.url) (.done (.ok link.url))
    | .ok none => .report (.unknown id) (.done (.error (.notFound id)))

end LinkLedger.Desk
