import LinkLedger.Program
import LinkLedger.Text.Decimal
import LinkLedger.Text.Utf8

/-!
# The table of links in a database

One table: an integer key that is assigned automatically, and the url as text, which is unique. Keys
are signed words; a new row gets one more than the largest key that was ever used, counting from
zero, so no key is used twice even if its row is gone. When the largest key is in use there are no
more new rows. Rows put in by hand may have any key, and text that is no UTF-8 or bytes that are no
text in place of a url.

`Table` is the data and its statements, `Database` the file that may lack the table, and
`Statement` outcomes are turned into answers about links at the end.
-/

set_option autoImplicit false

namespace LinkLedger

open LinkLedger.Text

/-! ## Rows -/

/-- What stands in the url column. Text and bytes are different even if they agree byte for
byte. -/
inductive Cell where
  | text (bytes : ByteArray)
  | blob (bytes : ByteArray)

/-- Cells are the same if they are of one kind and hold the same bytes. -/
instance : DecidableEq Cell
  | .text a, .text b =>
    match ByteArray.instDecidableEq a b with
    | isTrue same => isTrue (same ▸ rfl)
    | isFalse other => isFalse fun same => other (Cell.text.inj same)
  | .blob a, .blob b =>
    match ByteArray.instDecidableEq a b with
    | isTrue same => isTrue (same ▸ rfl)
    | isFalse other => isFalse fun same => other (Cell.blob.inj same)
  | .text _, .blob _ | .blob _, .text _ => isFalse Cell.noConfusion

structure Row where
  key : Int
  cell : Cell
  deriving DecidableEq

def Cell.ofUrl (url : String) : Cell := .text url.toByteArray

/-- The largest key, which is the largest signed word. -/
def maxKey : Nat := 9223372036854775807

/-! ## Errors -/

/-- Why a statement fails or its result cannot be used. -/
inductive SqlError where
  /-- There is no table of links. -/
  | noTable
  /-- The largest key has been used. -/
  | full
  /-- A column would hold a value twice; the columns have these names. -/
  | notUnique (column : String)
  /-- The row that was found has a key that is no id. -/
  | negativeKey (key : Int)
  /-- The url column holds bytes that are no text. -/
  | notText
  | notUtf8 (fault : Utf8Fault)
  /-- The database was opened for reading only. -/
  | readOnly
  /-- The database cannot be opened. -/
  | cannotOpen
  /-- Files cannot be accessed in the way that was asked for. -/
  | noFileSystem (name : String)
  /-- The path of the database holds a null character. -/
  | nulInPath
  /-- The connections to the database are closed. -/
  | closed
  /-- No connection became free in time. -/
  | timedOut
  deriving DecidableEq, Repr

/-- The failure of the store that an error amounts to. -/
def SqlError.failure : SqlError → StoreFailure
  | .noTable => ⟨.query, "error returned from database: (code: 1) no such table: permalinks"⟩
  | .full => ⟨.query, "error returned from database: (code: 13) database or disk is full"⟩
  | .notUnique column =>
    let code := if column = "permalink_id" then "1555" else "2067"
    ⟨.query, s!"error returned from database: (code: {code}) UNIQUE constraint failed: permalinks.{column}"⟩
  | .negativeKey key => ⟨.invalidData, s!"negative permalink_id {key}"⟩
  | .notText =>
    ⟨.invalidData, "error occurred while decoding column \"permalink\": mismatched types; Rust type `alloc::string::String` (as SQL type `TEXT`) is not compatible with SQL type `BLOB`"⟩
  | .notUtf8 fault =>
    ⟨.invalidData, s!"error occurred while decoding column \"permalink\": {fault.message}"⟩
  | .readOnly =>
    ⟨.query, "error returned from database: (code: 8) attempt to write a readonly database"⟩
  | .cannotOpen =>
    ⟨.query, "error returned from database: (code: 14) unable to open database file"⟩
  | .noFileSystem name =>
    ⟨.query, s!"error returned from database: (code: 1) no such vfs: {name}"⟩
  | .nulInPath =>
    ⟨.unavailable,
      "error communicating with database: filename passed to SQLite must not contain nul bytes"⟩
  | .closed => ⟨.unavailable, "attempted to acquire a connection on a closed pool"⟩
  | .timedOut => ⟨.timeout, "pool timed out while waiting for an open connection"⟩

/-! ## Statements -/

/-- The rows, oldest first, and the largest key that was ever used, zero at first. -/
structure Table where
  rows : List Row
  lastKey : Nat
  deriving DecidableEq

namespace Table

/-- The table when it has just been made. -/
def empty : Table := ⟨[], 0⟩

def byKey? (t : Table) (key : Int) : Option Row := t.rows.find? fun row => row.key = key

/-- The row whose url column holds this. -/
def byCell? (t : Table) (cell : Cell) : Option Row := t.rows.find? fun row => row.cell = cell

/-- Adds a row and remembers its key if it is the largest so far. -/
def push (t : Table) (key : Int) (cell : Cell) : Table :=
  ⟨t.rows ++ [⟨key, cell⟩], max t.lastKey key.toNat⟩

/-- Inserts a row under the next key. The key is found before the row is compared with others, so
a table without free keys does not say that a url is there already. -/
def insert (t : Table) (cell : Cell) : Except SqlError Int × Table :=
  if maxKey ≤ t.lastKey then (.error .full, t)
  else match t.byCell? cell with
    | some _ => (.error (.notUnique "permalink"), t)
    | none => (.ok (t.lastKey + 1), t.push (t.lastKey + 1) cell)

/-- Inserts a row under a key of one's own choice. -/
def plant (t : Table) (key : Int) (cell : Cell) : Except SqlError Unit × Table :=
  match t.byKey? key, t.byCell? cell with
  | some _, _ => (.error (.notUnique "permalink_id"), t)
  | _, some _ => (.error (.notUnique "permalink"), t)
  | none, none => (.ok (), t.push key cell)

/-- Deletes the row with a key. The key stays used. -/
def delete (t : Table) (key : Int) : Table := { t with rows := t.rows.filter fun r => r.key ≠ key }

end Table

/-! ## Rows as links -/

/-- The key under which the link with an id is kept. Ids above the largest key are never given
out. -/
def LinkId.key? (id : LinkId) : Option Int :=
  if id.word.toNat ≤ maxKey then some id.word.toNat else none

def LinkId.ofKey (key : Int) : Except SqlError LinkId :=
  if key < 0 then .error (.negativeKey key) else .ok ⟨UInt64.ofNat key.toNat⟩

def Cell.url : Cell → Except SqlError String
  | .blob _ => .error .notText
  | .text bytes =>
    match String.fromUTF8? bytes with
    | some url => .ok url
    | none => .error (.notUtf8 ((fault? bytes).getD ⟨0, 1, false⟩))

/-! ## The database -/

/-- A database file, with or without the table. -/
structure Database where
  table : Option Table
  deriving DecidableEq

namespace Database

def empty : Database := ⟨none⟩

/-- Makes the table if there is none. -/
def ensureTable (d : Database) : Database := ⟨some (d.table.getD .empty)⟩

/-- Drops the table, and with it the memory of its keys. -/
def dropTable (_ : Database) : Database := ⟨none⟩

/-- A statement that reads the table. -/
def reading {α : Type} (d : Database) (statement : Table → Except SqlError α) :
    Except SqlError α :=
  match d.table with
  | none => .error .noTable
  | some t => statement t

/-- A statement that may change the table. -/
def writing {α : Type} (d : Database) (statement : Table → Except SqlError α × Table) :
    Except SqlError α × Database :=
  match d.table with
  | none => (.error .noTable, d)
  | some t =>
    let (outcome, t) := statement t
    (outcome, ⟨some t⟩)

def rowCount (d : Database) : Except SqlError Nat := d.reading fun t => .ok t.rows.length

def idOf? (d : Database) (url : String) : Except SqlError (Option LinkId) :=
  d.reading fun t =>
    match t.byCell? (.ofUrl url) with
    | none => .ok none
    | some row => (LinkId.ofKey row.key).map some

/-- The link with an id whose key this is. -/
def get? (d : Database) (id : LinkId) (key : Int) : Except SqlError (Option Link) :=
  d.reading fun t =>
    match t.byKey? key with
    | none => .ok none
    | some row => row.cell.url.map fun url => some ⟨id, url⟩

/-- Inserts a url and gives the key of its row. -/
def insert (d : Database) (url : String) : Except SqlError Int × Database :=
  d.writing fun t => t.insert (.ofUrl url)

end Database

end LinkLedger
