import LinkLedger.Program

/-!
# The ledger

What a store of links stands for: links in the order in which they were made, and the id that the
next one gets. Ids count up from one. A url is written down once: a second insertion is a conflict
and changes nothing.
-/

set_option autoImplicit false

namespace LinkLedger

/-- The links made so far, oldest first, and the next id. -/
structure Ledger where
  links : List Link
  next : LinkId
  deriving DecidableEq, Repr

namespace Ledger

def empty : Ledger := ⟨[], ⟨1⟩⟩

def size (l : Ledger) : Nat := l.links.length

/-- The id under which a url is written down. -/
def idOf? (l : Ledger) (url : String) : Option LinkId :=
  (l.links.find? fun link => link.url = url).map Link.id

/-- The link with an id: the last one, should the ids have run out and begun again. -/
def get? (l : Ledger) (id : LinkId) : Option Link :=
  l.links.reverse.find? fun link => link.id = id

/-- The ledger with one more link, under the next id. -/
def push (l : Ledger) (url : String) : Ledger := ⟨l.links ++ [⟨l.next, url⟩], ⟨l.next.word + 1⟩⟩

/-- Writes a url down, unless it is there already. -/
def insert (l : Ledger) (url : String) : Except StoreFailure LinkId × Ledger :=
  match l.idOf? url with
  | some _ => (.error ⟨.conflict, url⟩, l)
  | none => (.ok l.next, l.push url)

/-- The ledger as a store. It never fails otherwise. -/
def store : Store Ledger where
  answer
    | .findByUrl url, l => (.ok (l.idOf? url), l)
    | .insert url, l => l.insert url
    | .get id, l => (.ok (l.get? id), l)

end Ledger

end LinkLedger
