import LinkLedger.Store.DatabaseUrl
import LinkLedger.Store.Image
import LinkLedger.Store.Pool

/-!
# Opening databases

A disk holds databases in directories that are there from the beginning; opening a file in one of
them makes it if it is missing. Every opened database has the table of links, or opening it fails.

A file that is promised not to change cannot be prepared for writing, and one that has been prepared
before cannot be opened under that promise.
-/

set_option autoImplicit false

namespace LinkLedger

/-- A path as its steps from the working directory, or from the root. -/
structure FilePath where
  isAbsolute : Bool
  steps : List String
  deriving DecidableEq, Repr

/-- Reads a path. Steps that stay where they are make no difference. -/
def FilePath.ofText (text : String) : FilePath :=
  let steps := (text.toList.splitOn '/').filter fun step => step ≠ [] ∧ step ≠ ['.']
  ⟨text.toList.head? = some '/', steps.map String.ofList⟩

/-- The working directory. -/
def FilePath.here : FilePath := ⟨false, []⟩

def FilePath.parent (p : FilePath) : FilePath := { p with steps := p.steps.dropLast }

/-- Directories, and the databases in them. -/
structure Disk where
  directories : List FilePath
  files : List (FilePath × Database)
  deriving DecidableEq

/-- An opened database: the connections to it and the file that it is kept in, if it is. -/
structure Opened where
  pool : Pool
  file : Option FilePath
  deriving DecidableEq

namespace Disk

/-- An empty working directory and other empty directories. -/
def empty (others : List FilePath) : Disk := ⟨.here :: others, []⟩

/-- A disk without any directory. -/
def bare : Disk := ⟨[], []⟩

/-- What there is to see around one file: its directory, and the file if it has content. A file that
was written by somebody else cannot be opened, as if it were a directory. -/
def around (text : String) (content : Option ByteArray) : Disk :=
  let path := FilePath.ofText text
  match content.map fun bytes => (String.fromUTF8? bytes).bind Database.ofImage? with
  | none => ⟨[path.parent], []⟩
  | some none => ⟨[path.parent, path], []⟩
  | some (some database) => ⟨[path.parent], [(path, database)]⟩

def file? (d : Disk) (path : FilePath) : Option Database := d.files.lookup path

/-- Whether a path can be that of a file: its directory is there and it is no directory itself. -/
def mayHold (d : Disk) (text : String) : Bool :=
  let path := FilePath.ofText text
  d.directories.contains path.parent && !d.directories.contains path && path.steps ≠ [] &&
    path.steps.getLast? ≠ some ".." && text.toList.getLast? ≠ some '/'

/-- The ways of accessing files that there are. -/
def fileSystems : List String := ["unix", "unix-dotfile", "unix-excl", "unix-none", "memdb"]

/-- Finds a database, or makes one, and tells how it may be accessed. -/
def connect (d : Disk) (url : DatabaseUrl) : Except SqlError Opened :=
  let access : Access := if url.readOnly then .readOnly else .ready
  match url.place with
  | .memory => .ok ⟨⟨.empty, access⟩, none⟩
  | .file "" => .ok ⟨⟨.empty, access⟩, none⟩
  | .file path =>
    let name := FilePath.ofText path
    if path.toList.contains '\x00' then .error .nulInPath
    else if !d.mayHold path then .error .cannotOpen
    else
      match d.file? name with
      | none =>
        if url.readOnly then .error .cannotOpen
        else if url.immutable then .error .readOnly
        else .ok ⟨⟨.empty, access⟩, some name⟩
      | some database =>
        if url.immutable then .error (if database.table.isSome then .cannotOpen else .readOnly)
        else .ok ⟨⟨database, access⟩, some name⟩

/-- Opens a database and sees to it that there is a table of links. -/
def openDatabase (d : Disk) (url : String) : Except StoreFailure Opened :=
  match DatabaseUrl.parse url with
  | .error fault => .error (configurationFailure fault.message)
  | .ok url =>
    match url.fileSystem.bind fun name => if fileSystems.contains name then none else some name with
    | some name => .error (SqlError.noFileSystem name).failure
    | none => Pool.outcome do
      let opened ← d.connect url
      let (made, pool) := opened.pool.ensureTable
      made
      return { opened with pool }

/-- Puts a database back where it was opened. -/
def save (d : Disk) (opened : Opened) : Disk :=
  match opened.file with
  | none => d
  | some path =>
    { d with
      files := (path, opened.pool.database) :: d.files.filter fun entry => entry.1 ≠ path }

end Disk

end LinkLedger
