import LinkLedger.CommandLine.Stop

/-!
# Help

The help texts, written from the tables of options and commands. Descriptions stand in a column of
their own behind the longest name; an option's description ends with its variable and the value of
that, its default, and the words that it takes.
-/

set_option autoImplicit false

namespace LinkLedger.CommandLine

/-- A name and its description. -/
abbrev HelpRow := String × String

/-- Rows in two columns. -/
def columns (rows : List HelpRow) : List String :=
  let width := rows.foldl (fun width row => max width row.1.length) 0
  rows.map fun (name, about) =>
    let gap := String.ofList (List.replicate (width - name.length) ' ')
    s!"  {name}{gap}  {about}"

/-- What the description of an option ends with. -/
def details (env : Environment) (key : Key) : List String :=
  let value := (env.lookup key.variableName).getD ""
  let fallback := match key.default? with
    | none => []
    | some text => [s!"[default: {text}]"]
  let words := match key.choices with
    | [] => []
    | choices => ["[possible values: " ++ String.intercalate ", " choices ++ "]"]
  s!"[env: {key.variableName}={value}]" :: fallback ++ words

def optionRow (env : Environment) (key : Key) : HelpRow :=
  let help := if key.help.isEmpty then [] else [key.help]
  (s!"    {key.shown}", String.intercalate " " (help ++ details env key))

def helpFlagRow : HelpRow := ("-h, --help", "Print help")

def helpCommandHelp : String := "Print this message or the help of the given subcommand(s)"

/-- A heading and what stands under it, behind an empty line. -/
def block (heading : String) (lines : List String) : List String :=
  "" :: s!"{heading}:" :: lines

def programHelp (env : Environment) : List String :=
  let commands := CommandName.all.map fun name => (name.name, name.help)
  ["Permalinks for test result reports", "", "Usage: permalink [OPTIONS] <COMMAND>"]
    ++ block "Commands" (columns (commands ++ [("help", helpCommandHelp)]))
    ++ block "Options" (columns (Scope.outer.keys.map (optionRow env)
      ++ [helpFlagRow, ("-V, --version", "Print version")]))

def commandHelp (env : Environment) (name : CommandName) : List String :=
  let keys := (Scope.command name).keys
  let usage := (if keys.isEmpty then "" else " [OPTIONS]")
    ++ (match name.operand? with
      | none => ""
      | some operand => s!" <{operand}>")
  let arguments := match name.operand? with
    | none => []
    | some operand => block "Arguments" (columns [(s!"<{operand}>", "")])
  [name.help, "", s!"Usage: permalink {name.name}{usage}"] ++ arguments
    ++ block "Options" (columns (keys.map (optionRow env) ++ [helpFlagRow]))

def helpHelp : List String :=
  [helpCommandHelp, "", "Usage: permalink help [COMMAND]..."]
    ++ block "Arguments" (columns [("[COMMAND]...", "Print help for the subcommand(s)")])

def Topic.lines (env : Environment) : Topic → List String
  | program => programHelp env
  | command name => commandHelp env name
  | help => helpHelp

/-- What is printed for a command line that is not carried out: help, the version, or what is wrong
with it. -/
def Stop.lines (env : Environment) (stop : Stop) : List String :=
  match stop.message?, stop with
  | some message, _ => [s!"error: {message}"]
  | none, .help topic => topic.lines env
  | none, .version => ["permalink 0.1.0"]
  | none, _ => programHelp env

end LinkLedger.CommandLine
