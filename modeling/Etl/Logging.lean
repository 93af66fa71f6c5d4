import Etl.Text.Lowercase
import Etl.Text.Name

/-!
Settings for log messages. They come from variables: one names the format, one asks for places in
the program, and one replaces the filter.
-/

namespace Etl

inductive LogFormat where
  /-- One JSON object for each event. -/
  | json
  /-- Several lines for each event, with colours. -/
  | pretty
  /-- One line for each event. -/
  | compact
deriving DecidableEq, Repr

namespace LogFormat

def name : LogFormat → String
  | json => "json"
  | pretty => "pretty"
  | compact => "compact"

def all : List LogFormat := [json, pretty, compact]

/-- Reads a name in any case, with blanks around it. -/
def parse (text : String) : Except UnknownName LogFormat :=
  ofName "log format" (all.map fun f => (f.name, f)) (Text.lowercase (Text.trim text))

/-- The format when none is named. -/
def standard (terminal : Bool) : LogFormat := if terminal then pretty else compact

end LogFormat

structure Logging where
  format : LogFormat
  /-- Which events are shown. -/
  filter : String
  /-- Whether events say where in the program they arise. -/
  location : Bool
deriving DecidableEq

namespace Logging

/-- The filter for so many requests to be verbose. -/
def filterFor : Nat → String
  | 0 => "warn"
  | 1 => "info"
  | 2 => "debug"
  | _ => "trace"

/-- The settings that variables ask for. A format that is not known counts as none. -/
def ofVariables (value? : String → Option String) (filter : String) (terminal : Bool) :
    Logging where
  format := ((value? "PIPEWRIGHT_LOG_FORMAT").bind fun s => (LogFormat.parse s).toOption).getD
    (.standard terminal)
  filter := (value? "RUST_LOG").getD filter
  location := (value? "PIPEWRIGHT_LOG_LOCATION").any fun s => s = "true" || s = "1"

end Logging

end Etl
