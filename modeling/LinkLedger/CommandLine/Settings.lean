import LinkLedger.Address.Socket
import LinkLedger.Log.Format

/-!
# Settings

What a command line comes to: where links are kept, how the log is written, and the command with its
arguments.
-/

set_option autoImplicit false

namespace LinkLedger.CommandLine

open LinkLedger.Address

inductive Storage where
  | inMemory
  | mysql
  | sqlite
  deriving DecidableEq, Repr

def Storage.name : Storage → String
  | .inMemory => "in-memory"
  | .mysql => "mysql"
  | .sqlite => "sqlite"

/-- The storages in the order in which they are offered. -/
def Storage.all : List Storage := [.inMemory, .mysql, .sqlite]

inductive Command where
  /-- Run the gateway at an address of its own, under a public address. -/
  | serve (listen : SocketAddress) (base : String)
  /-- Print the id of the link to a url. -/
  | make (url : String)
  /-- Print where an id leads. -/
  | resolve (id : String)
  deriving DecidableEq, Repr

structure Settings where
  storage : Storage
  mysqlDsn : Option String
  sqliteUrl : Option String
  logFormat : Log.Format
  logLevel : String
  collector : Option String
  command : Command
  deriving DecidableEq, Repr

/-- Environment variables by name. -/
abbrev Environment := List (String × String)

end LinkLedger.CommandLine
