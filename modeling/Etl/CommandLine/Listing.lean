import Etl.Catalog
import Etl.Pipeline.Basic
import Etl.Validation.Report

/-!
What commands show: the findings about a pipeline, and a table of node types.
-/

namespace Etl.CommandLine

/-- The lines of a text, each with its end. -/
def lines (texts : List String) : String := String.join (texts.map (· ++ "\n"))

def mark : Severity → String
  | .error => "✗"
  | .warning => "⚠"
  | .info => "ℹ"

def findingLine (d : Diagnostic) : String :=
  mark d.severity ++ " " ++ d.severity.name ++ " [" ++ d.rule.name ++ "] " ++ d.message

/-- One line on how a validation went. -/
def summary (r : Report) : String :=
  match r.errors.length, r.warnings.length with
  | 0, 0 => "✓ Validation PASSED"
  | 0, w => "⚠ Validation passed with " ++ toString w ++ " warning(s)"
  | e, w => "✗ Validation FAILED: " ++ toString e ++ " error(s), " ++ toString w ++ " warning(s)"

/-- The findings about the pipeline in a file. The rules above and below are as long as the title is
in bytes. -/
def showReport (file : String) (p : Pipeline) (r : Report) : String :=
  let title := "Validation Results for: " ++ file
  let rule := String.ofList (List.replicate title.utf8ByteSize '=')
  let findings := if r.isEmpty then ["✓ No diagnostics"] else r.diagnostics.map findingLine
  lines <|
    [title, rule, "", "Pipeline: " ++ p.name ++ " (" ++ p.id ++ ")",
      "  Nodes: " ++ toString p.nodeCount ++ "  Edges: " ++ toString p.edgeCount, ""] ++
    findings ++ ["", rule, summary r]

/-- The errors that keep a pipeline from being compiled. -/
def showBlocking (diagnostics : List Diagnostic) : String :=
  lines ("✗ Pipeline is not deployable:" ::
    (diagnostics.filter (·.isError)).map fun d => "  - " ++ d.describe)

/-- Fills a text up to a width in characters. -/
def pad (width : Nat) (text : String) : String :=
  text ++ String.ofList (List.replicate (width - text.length) ' ')

def row (id category name required : String) : String :=
  pad 22 id ++ " " ++ pad 14 category ++ " " ++ pad 16 name ++ " " ++ required

def typeRow (type : NodeType) : String :=
  row type.id type.category.name type.displayName
    (", ".intercalate (type.requiredFields.map (·.name)))

/-- The table of some node types. -/
def showTypes (types : List NodeType) : String :=
  lines <|
    ["Node Types", "==========", "", row "TYPE" "CATEGORY" "NAME" "REQUIRED",
      row "----" "--------" "----" "--------"] ++
    types.map typeRow ++ ["", toString types.length ++ " type(s)"]

end Etl.CommandLine
