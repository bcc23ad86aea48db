import LinkLedger.CommandLine.Option

/-!
# Command lines that are not carried out

A command line may ask for nothing but help or the version, and it may be wrong. Either way there is
something to print and a number to end with.
-/

set_option autoImplicit false

namespace LinkLedger.CommandLine

/-- What help is asked for. -/
inductive Topic where
  /-- The program. -/
  | program
  | command (name : CommandName)
  /-- The command that shows help. -/
  | help
  deriving DecidableEq, Repr

/-- What a scope gives help on. -/
def Topic.ofScope : Scope → Topic
  | .outer => program
  | .command name => command name

/-- Why a command line is not carried out. -/
inductive Stop where
  /-- It asks for help. -/
  | help (topic : Topic)
  /-- It asks for the version. -/
  | version
  /-- It says nothing at all, so it gets help. -/
  | nothingSaid
  /-- There are options but no command. -/
  | noCommand
  | unknownCommand (name : String)
  | unknownArgument (shown : String)
  /-- An option ends the line or stands before another one, or its value is empty and may not be. -/
  | noValue (key : Key)
  /-- The value is none of the words that the option takes. -/
  | notChoice (key : Key) (value : String)
  /-- The value of an option is no socket address. -/
  | notAddress (key : Key) (value : String)
  /-- A flag takes no value but has one. -/
  | needlessValue (flag value : String)
  | repeated (key : Key)
  /-- The operand of a command or an option that the storage needs. -/
  | missing
  deriving DecidableEq, Repr

namespace Stop

/-- The number to end with: zero for what was asked for. -/
def exitCode : Stop → Nat
  | help _ | version => 0
  | _ => 2

def message? : Stop → Option String
  | help _ | version | nothingSaid => none
  | noCommand => some "'permalink' requires a subcommand but one was not provided"
  | unknownCommand name => some s!"unrecognized subcommand '{name}'"
  | unknownArgument shown => some s!"unexpected argument '{shown}' found"
  | noValue key => some s!"a value is required for '{key.shown}' but none was supplied"
  | notChoice key value => some s!"invalid value '{value}' for '{key.shown}'"
  | notAddress key value =>
    some s!"invalid value '{value}' for '{key.shown}': invalid socket address syntax"
  | needlessValue flag value =>
    some s!"unexpected value '{value}' for '{flag}' found; no more were expected"
  | repeated key => some s!"the argument '{key.shown}' cannot be used multiple times"
  | missing => some "the following required arguments were not provided:"

end Stop

end LinkLedger.CommandLine
