import LinkLedger.CommandLine.Stop

/-!
# Reading command lines

Arguments are read from left to right, first those in front of the command, then those behind it.
A value that stands behind its option is checked only when the next option comes, or when all that
follows has been read, so of two mistakes the later may be reported. Behind `--` there are only
operands.

Once a scope has been read, the environment stands in for options that are not given; the scope of
the command comes to that before the outer one. What is missing is found last.
-/

set_option autoImplicit false

namespace LinkLedger.CommandLine

/-! ## Values -/

/-- Gives an option its value, or tells what is wrong with the value. -/
def Given.take (g : Given) (key : Key) (value : String) : Except Stop Given :=
  match g.put? key value with
  | some g => .ok g
  | none =>
    if key.choices.isEmpty then .error (.notAddress key value)
    else if value.isEmpty then .error (.noValue key)
    else .error (.notChoice key value)

/-- Gives options that are not given yet the values of their variables. -/
def Given.fillFrom (env : Environment) : List Key → Given → Except Stop Given
  | [], g => .ok g
  | key :: keys, g =>
    match if g.has key then none else env.lookup key.variableName with
    | none => fillFrom env keys g
    | some value => do fillFrom env keys (← g.take key value)

/-! ## One scope -/

structure Reading where
  given : Given := {}
  operand : Option String := none
  /-- The last option, and its value if that has come, until the value is checked. -/
  pending : Option (Key × Option String) := none
  /-- Whether `--` has come. -/
  onlyOperands : Bool := false

namespace Reading

/-- Whether the next argument may be the value of an option. -/
def awaitsValue (r : Reading) : Bool :=
  match r.pending with
  | some (_, none) => true
  | _ => false

/-- Gives an option a value that stands in the line. -/
def give (r : Reading) (key : Key) (value : String) : Except Stop Reading :=
  if r.given.has key then .error (.repeated key)
  else (r.given.take key value).map fun given => { r with given }

/-- Checks the value of the last option. -/
def settle (r : Reading) : Except Stop Reading :=
  match r.pending with
  | none => .ok r
  | some (key, none) => .error (.noValue key)
  | some (key, some value) => { r with pending := none }.give key value

end Reading

/-- The help that behind the command `help` words ask for. -/
def helpOn : List String → Stop
  | [] => .help .program
  | word :: more =>
    let about (topic : Topic) : Stop :=
      match more with
      | [] => .help topic
      | next :: _ => .unknownCommand next
    match CommandName.all.find? fun name => name.name = word with
    | some name => about (.command name)
    | none => if word = "help" then about .help else .unknownCommand word

/-- The long option that an argument is, as its name and perhaps the value behind an equals sign. -/
def longOption? (argument : String) : Option (String × Option String) :=
  match argument.toList with
  | '-' :: '-' :: c :: rest =>
    let text := c :: rest
    let name := String.ofList (text.takeWhile (· ≠ '='))
    match text.dropWhile (· ≠ '=') with
    | '=' :: value => some (name, some (String.ofList value))
    | _ => some (name, none)
  | _ => none

/-- The first letter of an argument that is a cluster of short options. -/
def shortOption? (argument : String) : Option Char :=
  match argument.toList with
  | '-' :: c :: _ => if c = '-' then none else some c
  | _ => none

/-- Reads a flag that ends the reading. -/
def readFlag (r : Reading) (stop : Stop) : Except Stop Reading :=
  match r.settle with
  | .error earlier => .error earlier
  | .ok _ => .error stop

def readLong (scope : Scope) (r : Reading) (name : String) (value : Option String) :
    Except Stop Reading :=
  let flag (stop : Stop) : Except Stop Reading :=
    match value with
    | none => readFlag r stop
    | some value => .error (.needlessValue s!"--{name}" value)
  match scope.keys.find? fun key => key.name = name with
  | some key => do
    let r ← r.settle
    match value with
    | some value => r.give key value
    | none => return { r with pending := some (key, none) }
  | none =>
    if name = "help" then flag (.help (.ofScope scope))
    else if name = "version" ∧ scope = .outer then flag .version
    else .error (.unknownArgument s!"--{name}")

/-- Reads a cluster of short options: its first letter decides. -/
def readShort (scope : Scope) (r : Reading) (letter : Char) : Except Stop Reading :=
  if letter = 'h' then readFlag r (.help (.ofScope scope))
  else if letter = 'V' ∧ scope = .outer then readFlag r .version
  else .error (.unknownArgument (String.ofList ['-', letter]))

/-- Reads an operand. A word that nothing takes is an unknown argument, or, where a command may
stand, an unknown command. -/
def readOperand (scope : Scope) (r : Reading) (word : String) : Except Stop Reading :=
  if scope.operand?.isSome ∧ r.operand.isNone then .ok { r with operand := some word }
  else if scope = .outer then
    if word = "help" ∨ CommandName.all.any fun name => name.name = word then
      .error (.unknownArgument word)
    else .error (.unknownCommand word)
  else .error (.unknownArgument word)

/-- Reads the arguments of a scope. In the outer scope this ends at the command; the arguments
behind that are given back with it. The last value is left unchecked. -/
def readScope (scope : Scope) (r : Reading) :
    List String → Except Stop (Reading × Option (CommandName × List String))
  | [] => .ok (r, none)
  | argument :: rest =>
    if r.onlyOperands then do readScope scope (← readOperand scope r argument) rest
    else
      let mayBeCommand := scope = .outer ∧ !r.awaitsValue
      if mayBeCommand ∧ argument = "help" then .error (helpOn rest)
      else
        match if mayBeCommand then CommandName.all.find? fun n => n.name = argument else none with
        | some name => .ok (r, some (name, rest))
        | none =>
          if argument = "--" then readScope scope { r with onlyOperands := true } rest
          else
            match longOption? argument, shortOption? argument, r.pending with
            | some (name, value), _, _ => do readScope scope (← readLong scope r name value) rest
            | none, some letter, _ => do readScope scope (← readShort scope r letter) rest
            | none, none, some (key, none) =>
              readScope scope { r with pending := some (key, some argument) } rest
            | none, none, _ => do readScope scope (← readOperand scope r argument) rest

/-! ## Whole command lines -/

/-- Reads the arguments behind a command. -/
def readCommand (env : Environment) (name : CommandName) (arguments : List String) :
    Except Stop Command := do
  let (unchecked, _) ← readScope (.command name) {} arguments
  let reading ← unchecked.settle
  let given ← reading.given.fillFrom env (Scope.command name).keys
  match name, reading.operand with
  | .serve, _ => return .serve (given.listen.getD defaultListen) (given.base.getD defaultBase)
  | .make, some url => return .make url
  | .resolve, some id => return .resolve id
  | _, none => throw .missing

/-- Whether the storage that is given needs an option that is not. -/
def Given.lacksAddress (g : Given) : Bool :=
  (g.storage = some .mysql && g.mysqlDsn.isNone) || (g.storage = some .sqlite && g.sqliteUrl.isNone)

/-- The settings that options and a command come to: defaults stand in for what is not given. -/
def Given.settings (g : Given) (command : Command) : Settings where
  storage := g.storage.getD defaultStorage
  mysqlDsn := g.mysqlDsn
  sqliteUrl := g.sqliteUrl
  logFormat := g.logFormat.getD defaultLogFormat
  logLevel := g.logLevel.getD defaultLogLevel
  collector := g.collector
  command := command

/-- Reads a command line. The scope of the command is done with before the last value in front of
the command is checked. -/
def parse (env : Environment) (arguments : List String) : Except Stop Settings := do
  let (unchecked, behind) ← readScope .outer {} arguments
  let command ← match behind with
    | none => pure none
    | some (name, rest) => (readCommand env name rest).map some
  let reading ← unchecked.settle
  let given ← reading.given.fillFrom env Scope.outer.keys
  match command with
  | none => throw (if given = {} then .nothingSaid else .noCommand)
  | some command => if given.lacksAddress then throw .missing else return given.settings command

end LinkLedger.CommandLine
