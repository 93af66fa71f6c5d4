import Etl.Text.Lowercase
import Etl.Text.Name

/-!
How much a diagnostic weighs. Only errors keep a pipeline from being deployed.
-/

namespace Etl

inductive Severity where
  | error
  | warning
  | info
deriving DecidableEq, Repr

namespace Severity

def name : Severity → String
  | error => "error"
  | warning => "warning"
  | info => "info"

def all : List Severity := [error, warning, info]

def known : List (String × Severity) := all.map fun s => (s.name, s)

/-- Reads a name in any case; a warning has a short form. -/
def parse (text : String) : Except UnknownName Severity :=
  ofName "severity" (known ++ [("warn", warning)]) (Text.lowercase text)

end Severity

end Etl
