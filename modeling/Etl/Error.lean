import Etl.Catalog.NodeType
import Etl.Files.Fault
import Etl.Settings.Fault
import Etl.Validation.Limits
import Etl.Validation.Policy
import Etl.Yaml.Reader

/-!
Everything that can go wrong, as causes. Each has a code and one text, and belongs to some of three
classes: something was not found, the graph would be broken, or trying again can help.
-/

namespace Etl

inductive Error where
  | nodeTypeNotFound (typeId : String)
  | nodeNotFound (id : NodeId)
  | edgeNotFound (edge : Edge)
  | duplicateNode (id : NodeId)
  | invalidConfig (id : NodeId) (fault : ConfigFault)
  | unknownField (id : NodeId) (typeId field : String)
  | duplicatePipeline (id : PipelineId)
  | cycleWouldForm (edge : Edge)
  | cycleDetected (ids : List NodeId)
  | duplicateEdge (edge : Edge)
  | selfLoop (id : NodeId)
  | notDeployable (diagnostics : List Diagnostic)
  | staleVersion (expected actual : Nat)
  | invalidNodeType (typeId : String) (fault : TypeFault)
  | invalidPolicy (fault : PolicyFault)
  | oversize (fault : Oversize)
  | json (problem : Json.Problem)
  | yaml
  | file (path : String) (fault : FileFault)

namespace Json

def Fault.message : Fault → String
  | .malformed => "unexpected character"
  | .truncated => "unexpected end of text"

def Problem.message : Problem → String
  | .fault f => f.message
  | .mismatch m => m.message

end Json

namespace Error

def code : Error → String
  | nodeTypeNotFound .. => "E101"
  | nodeNotFound .. => "E102"
  | edgeNotFound .. => "E103"
  | duplicateNode .. => "E104"
  | invalidConfig .. => "E105"
  | unknownField .. => "E106"
  | duplicatePipeline .. => "E107"
  | cycleWouldForm .. => "E201"
  | cycleDetected .. => "E202"
  | duplicateEdge .. => "E203"
  | selfLoop .. => "E204"
  | notDeployable .. => "E301"
  | staleVersion .. => "E401"
  | invalidNodeType .. => "E501"
  | invalidPolicy .. => "E502"
  | oversize .. => "E503"
  | json .. => "E601"
  | yaml => "E602"
  | file .. => "E901"

/-- How messages show a list of nodes. -/
def listedIds (ids : List NodeId) : String :=
  "[" ++ ", ".intercalate (ids.map fun id => "NodeId(" ++ Text.escaped id ++ ")") ++ "]"

/-- The findings that block a pipeline, in one line. -/
def blockingSummary (diagnostics : List Diagnostic) : String :=
  let errors := diagnostics.filter (·.isError)
  toString errors.length ++ " blocking diagnostic(s): " ++
    "; ".intercalate (errors.map Diagnostic.describe)

/-- What is wrong, without the code. -/
def detail : Error → String
  | nodeTypeNotFound typeId => "Unknown node type '" ++ typeId ++ "'"
  | nodeNotFound id => "Node '" ++ id ++ "' not found in pipeline"
  | edgeNotFound edge => "Edge " ++ edge.describe ++ " not found in pipeline"
  | duplicateNode id => "Node '" ++ id ++ "' already exists"
  | invalidConfig id fault =>
    "Invalid value for field '" ++ fault.field ++ "' of node '" ++ id ++ "': " ++
      fault.cause.message
  | unknownField id typeId field =>
    "Node '" ++ id ++ "' of type '" ++ typeId ++ "' has no field '" ++ field ++ "'"
  | duplicatePipeline id => "Pipeline '" ++ id ++ "' already exists"
  | cycleWouldForm edge => "Edge " ++ edge.describe ++ " would form a cycle"
  | cycleDetected ids => "Cycle detected involving nodes: " ++ listedIds ids
  | duplicateEdge edge => "Duplicate edge " ++ edge.describe
  | selfLoop id => "Self-loop on node '" ++ id ++ "'"
  | notDeployable diagnostics => "Pipeline is not deployable: " ++ blockingSummary diagnostics
  | staleVersion expected actual =>
    "Stale version: expected " ++ toString expected ++ ", document is at " ++ toString actual
  | invalidNodeType typeId fault =>
    "Invalid node type spec '" ++ typeId ++ "': " ++ fault.message
  | invalidPolicy fault => fault.message
  | oversize fault => "Limit exceeded: " ++ fault.message
  | json problem => "Descriptor error: " ++ problem.message
  | yaml => "YAML error: the text does not describe the expected value"
  | file path fault => "I/O error at " ++ path ++ ": " ++ fault.message

def message (e : Error) : String := e.code ++ ": " ++ e.detail

/-- Something named in the request does not exist. -/
def isNotFound : Error → Bool
  | nodeTypeNotFound .. | nodeNotFound .. | edgeNotFound .. => true
  | _ => false

/-- The graph would be broken, or names something that does not exist. -/
def isStructural : Error → Bool
  | cycleWouldForm .. | cycleDetected .. | duplicateEdge .. | selfLoop .. | duplicateNode .. =>
    true
  | e => e.isNotFound

/-- The user can mend the pipeline or read it again. -/
def isRecoverable : Error → Bool
  | notDeployable .. | staleVersion .. => true
  | _ => false

/-- Reads a JSON text, with the problem as an error. -/
def ofJson {α : Type} (read : Json.Reader α) (text : String) : Except Error α :=
  (Json.Reader.ofText read text).mapError .json

/-- Reads a YAML text. -/
def ofYaml {α : Type} (read : Yaml.Reader α) (text : String) : Except Error α :=
  match Yaml.Reader.ofText read text with
  | some a => .ok a
  | none => .error .yaml

end Error

end Etl
