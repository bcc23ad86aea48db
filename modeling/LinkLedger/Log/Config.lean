import LinkLedger.Log.Filter
import LinkLedger.Log.Format

/-!
# Log configuration

What a service has to say about its log: its own name, the format of lines, the filter that holds
unless the environment has another, and perhaps a collector that lines are sent to.
-/

set_option autoImplicit false

namespace LinkLedger.Log

open LinkLedger.Text

structure Config where
  serviceName : String
  format : Format := .text
  defaultFilter : String := "info"
  /-- The address of a collector. -/
  collector : Option String := none
  deriving DecidableEq, Repr

/-- A format as it is named in descriptions. -/
def Format.title : Format → String
  | .text => "Text"
  | .json => "Json"

/-- All settings of a configuration on one line. -/
def Config.describe (c : Config) : String :=
  let collector := match c.collector with
    | none => "None"
    | some address => s!"Some({quoted address})"
  s!"TelemetryConfig \x7b service_name: {quoted c.serviceName}, format: {c.format.title}, default_filter: {quoted c.defaultFilter}, otlp_endpoint: {collector} \x7d"

inductive Fault where
  /-- The filter cannot be read. -/
  | badFilter
  deriving DecidableEq, Repr

/-- The filter that holds: the one in the environment if there is one that can be read, else the
configured one. -/
def Config.filter (c : Config) (environment : Option String) : Except Fault Filter :=
  match environment.bind Filter.parse? with
  | some filter => .ok filter
  | none =>
    match Filter.parse? c.defaultFilter with
    | some filter => .ok filter
    | none => .error .badFilter

end LinkLedger.Log
