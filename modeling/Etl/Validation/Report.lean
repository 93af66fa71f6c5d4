import Etl.Error

/-!
Reports: the diagnostics of one validation, in order. A pipeline is deployable when none of them is
an error.
-/

namespace Etl

structure Report where
  diagnostics : List Diagnostic
deriving DecidableEq

namespace Report

variable (r : Report)

def isDeployable : Bool := !r.diagnostics.any (·.isError)

def withSeverity (s : Severity) : List Diagnostic := r.diagnostics.filter (·.severity == s)

def errors : List Diagnostic := r.withSeverity .error

def warnings : List Diagnostic := r.withSeverity .warning

/-- The diagnostics about one node. -/
def forNode (id : NodeId) : List Diagnostic := r.diagnostics.filter (·.node == some id)

def isEmpty : Bool := r.diagnostics.isEmpty

/-- The report itself when the pipeline is deployable. -/
def toResult : Except Error Report :=
  if r.isDeployable then .ok r else .error (.notDeployable r.diagnostics)

def toJson : Json := .object [("diagnostics", .list (r.diagnostics.map Diagnostic.toJson))]

def shape : Json.Shape Report where
  name := "ValidationReport"
  slots := [.required "diagnostics" (.list Diagnostic.shape.read) fun v _ => ⟨v⟩]
  blank := ⟨[]⟩

end Report

end Etl
