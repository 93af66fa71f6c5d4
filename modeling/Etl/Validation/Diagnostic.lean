import Etl.Edge
import Etl.Json.Shape
import Etl.Json.Value
import Etl.Validation.Rule
import Etl.Validation.Severity

/-!
Diagnostics: what a rule found, about one node or about the pipeline as a whole.
-/

namespace Etl

structure Diagnostic where
  severity : Severity
  rule : Rule
  message : String
  node : Option NodeId
deriving DecidableEq

namespace Diagnostic

def isError (d : Diagnostic) : Bool := d.severity == .error

/-- The one-line form. -/
def describe (d : Diagnostic) : String :=
  "[" ++ d.severity.name ++ "] " ++ d.rule.name ++ ": " ++ d.message

/-- The JSON form leaves out an absent node. -/
def toJson (d : Diagnostic) : Json :=
  .object <|
    [("severity", .text d.severity.name), ("rule", .text d.rule.name),
      ("message", .text d.message)] ++
    match d.node with
    | some id => [("node", .text id)]
    | none => []

def shape : Json.Shape Diagnostic where
  name := "Diagnostic"
  slots :=
    [.required "severity" (.oneOf Severity.known) fun v d => { d with severity := v },
     .required "rule" (.oneOf Rule.known) fun v d => { d with rule := v },
     .required "message" .text fun v d => { d with message := v },
     .withDefault "node" (.optional .text) fun v d => { d with node := v }]
  blank := ⟨.error, .limits, "", none⟩

end Diagnostic

end Etl
