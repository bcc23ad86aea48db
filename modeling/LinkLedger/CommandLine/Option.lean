import LinkLedger.CommandLine.Settings

/-!
# Options and scopes of a command line

A command line has two scopes: options and a command, then the options and the operand of that
command. Each option has a long name, a variable in the environment that stands in for it, and
perhaps a default; some take one of a few words.
-/

set_option autoImplicit false

namespace LinkLedger.CommandLine

open LinkLedger.Address

/-! ## Defaults -/

def defaultStorage : Storage := .inMemory

def defaultLogFormat : Log.Format := .text

def defaultLogLevel : String := "info"

def defaultListen : SocketAddress := .v4 [127, 0, 0, 1] 8080

def defaultBase : String := "http://127.0.0.1:8080/"

/-! ## Options -/

/-- The options that take a value. -/
inductive Key where
  | storage
  | mysqlDsn
  | sqliteUrl
  | logFormat
  | logLevel
  | collector
  | listen
  | base
  deriving DecidableEq, Repr

namespace Key

/-- The long name, which stands behind two dashes. -/
def name : Key → String
  | storage => "storage"
  | mysqlDsn => "mysql-dsn"
  | sqliteUrl => "sqlite-url"
  | logFormat => "log-format"
  | logLevel => "log-level"
  | collector => "otlp-endpoint"
  | listen => "listen-addr"
  | base => "base-url"

/-- The name of the value in messages: the long name in capitals. -/
def valueName (key : Key) : String :=
  String.ofList (key.name.toList.map fun c => if c = '-' then '_' else c.toUpper)

/-- An option as it is shown in messages. -/
def shown (key : Key) : String := s!"--{key.name} <{key.valueName}>"

def variableName : Key → String
  | storage => "PERMALINK_STORAGE_BACKEND"
  | mysqlDsn => "PERMALINK_MYSQL_DSN"
  | sqliteUrl => "PERMALINK_SQLITE_URL"
  | logFormat => "PERMALINK_LOG_FORMAT"
  | logLevel => "PERMALINK_LOG_LEVEL"
  | collector => "PERMALINK_OTLP_ENDPOINT"
  | listen => "PERMALINK_LISTEN_ADDR"
  | base => "PERMALINK_BASE_URL"

def default? : Key → Option String
  | storage => some defaultStorage.name
  | logFormat => some defaultLogFormat.name
  | logLevel => some defaultLogLevel
  | listen => some defaultListen.text
  | base => some defaultBase
  | mysqlDsn | sqliteUrl | collector => none

/-- The words that an option takes; none if it takes others as well. -/
def choices : Key → List String
  | storage => Storage.all.map Storage.name
  | logFormat => Log.Format.all.map Log.Format.name
  | _ => []

def help : Key → String
  | sqliteUrl => "e.g. `sqlite://permalinks.db`"
  | logLevel => "Filter directives used when `RUST_LOG` is unset"
  | base => "Public url of the reporter; permalinks and their targets hang off it"
  | _ => ""

end Key

/-! ## Scopes -/

inductive CommandName where
  | serve
  | make
  | resolve
  deriving DecidableEq, Repr

namespace CommandName

def name : CommandName → String
  | serve => "serve"
  | make => "make"
  | resolve => "resolve"

def help : CommandName → String
  | serve => "Run the HTTP server"
  | make => "Print the permalink id for a url, creating it if needed"
  | resolve => "Print the url a permalink id points to"

/-- The commands in the order in which they are listed. -/
def all : List CommandName := [serve, make, resolve]

def operand? : CommandName → Option String
  | serve => none
  | make => some "URL"
  | resolve => some "ID"

end CommandName

/-- A scope of a command line: in front of the command, or behind it. -/
inductive Scope where
  | outer
  | command (name : CommandName)
  deriving DecidableEq, Repr

namespace Scope

/-- The options of a scope in the order in which they are listed. -/
def keys : Scope → List Key
  | outer => [.storage, .mysqlDsn, .sqliteUrl, .logFormat, .logLevel, .collector]
  | command .serve => [.listen, .base]
  | command _ => []

def operand? : Scope → Option String
  | outer => none
  | command name => name.operand?

end Scope

/-! ## Values -/

/-- The options that are given, with their values. -/
structure Given where
  storage : Option Storage := none
  mysqlDsn : Option String := none
  sqliteUrl : Option String := none
  logFormat : Option Log.Format := none
  logLevel : Option String := none
  collector : Option String := none
  listen : Option SocketAddress := none
  base : Option String := none
  deriving DecidableEq, Repr

namespace Given

def has (g : Given) : Key → Bool
  | .storage => g.storage.isSome
  | .mysqlDsn => g.mysqlDsn.isSome
  | .sqliteUrl => g.sqliteUrl.isSome
  | .logFormat => g.logFormat.isSome
  | .logLevel => g.logLevel.isSome
  | .collector => g.collector.isSome
  | .listen => g.listen.isSome
  | .base => g.base.isSome

/-- Gives an option a value, if it is one that the option takes. -/
def put? (g : Given) (key : Key) (value : String) : Option Given :=
  match key with
  | .storage =>
    (Storage.all.find? fun s => s.name = value).map fun s => { g with storage := some s }
  | .logFormat =>
    (Log.Format.all.find? fun f => f.name = value).map fun f => { g with logFormat := some f }
  | .listen => (SocketAddress.parse? value).map fun a => { g with listen := some a }
  | .mysqlDsn => some { g with mysqlDsn := some value }
  | .sqliteUrl => some { g with sqliteUrl := some value }
  | .logLevel => some { g with logLevel := some value }
  | .collector => some { g with collector := some value }
  | .base => some { g with base := some value }

end Given

end LinkLedger.CommandLine
