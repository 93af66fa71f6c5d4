import Etl.Catalog
import Etl.Pipeline.Order
import Etl.Pipeline.Reach
import Etl.Settings.Project

/-!
What each rule finds in a pipeline. Nodes are visited in order of their identifiers; rules about
categories pass over nodes whose type is not registered.
-/

namespace Etl

namespace Diagnostic

/-- A finding about one node. -/
def about (severity : Severity) (rule : Rule) (id : NodeId) (message : String) : Diagnostic :=
  ⟨severity, rule, message, some id⟩

end Diagnostic

namespace Validation

variable (p : Pipeline) (c : Catalog)

/-- The nodes whose type is registered, with it. -/
def resolved : List (Node × NodeType) :=
  p.nodeList.filterMap fun node => (c.get? node.type).map fun type => (node, type)

/-- The category of a node, if both the node and its type exist. -/
def categoryOf (id : NodeId) : Option Category :=
  ((p.node? id).bind fun node => c.get? node.type).map (·.category)

/-- Whether a node of some category lies downstream. -/
def hasDescendantOf (id : NodeId) (category : Category) : Bool :=
  (p.descendants id).toList.any fun other => categoryOf p c other == some category

/-- Counts above the limits. -/
def limits (l : Limits) : List Diagnostic :=
  (if l.maxNodes.toNat < p.nodeCount then
    [⟨.error, .limits, "node count (" ++ toString p.nodeCount ++ ") exceeds maximum allowed (" ++
      toString l.maxNodes.toNat ++ ")", none⟩] else []) ++
  (if l.maxEdges.toNat < p.edgeCount then
    [⟨.error, .limits, "edge count (" ++ toString p.edgeCount ++ ") exceeds maximum allowed (" ++
      toString l.maxEdges.toNat ++ ")", none⟩] else [])

/-- Nodes whose type is not registered. -/
def typeExistence : List Diagnostic :=
  (p.nodeList.filter fun node => !c.contains node.type).map fun node =>
    .about .error .typeExistence node.id
      ("node " ++ node.id ++ " references unknown type '" ++ node.type ++ "'")

/-- Whether a node reaches itself over one of its edges. -/
def isOnCycle (id : NodeId) : Bool :=
  (p.successors id).any fun next => p.canReach next id

/-- Nodes on a cycle. -/
def acyclicity : List Diagnostic :=
  match p.order with
  | .ok _ => []
  | .error _ =>
    (p.nodeList.filter fun node => isOnCycle p node.id).map fun node =>
      .about .error .acyclicity node.id ("node " ++ node.id ++ " is part of a cycle")

/-- A node that lacks an edge its category needs. -/
def connectivityOf (node : Node) (type : NodeType) : List Diagnostic :=
  (if type.category ≠ .source ∧ p.inDegree node.id = 0 then
    [.about .error .connectivity node.id ("node " ++ node.id ++ " has no incoming connections")]
   else []) ++
  (if p.outDegree node.id = 0 then
    match type.category with
    | .source | .transform =>
      [.about .error .connectivity node.id ("node " ++ node.id ++ " has no outgoing connections")]
    | .qualityCheck =>
      [.about .info .connectivity node.id ("quality check " ++ node.id ++ " is terminal")]
    | .target => []
   else [])

def connectivity : List Diagnostic :=
  (resolved p c).flatMap fun (node, type) => connectivityOf p node type

def missingField (node : Node) (field : FieldSpec) : Diagnostic :=
  .about .error .requiredConfig node.id
    ("node " ++ node.id ++ " is missing required field '" ++ field.name ++ "'")

def badField (node : Node) (fault : ConfigFault) : Diagnostic :=
  .about .error .requiredConfig node.id
    ("field '" ++ fault.field ++ "' of node " ++ node.id ++ ": " ++ fault.cause.message)

def unknownField (node : Node) (type : NodeType) (name : String) : Diagnostic :=
  .about .error .requiredConfig node.id
    ("node " ++ node.id ++ " has unknown field '" ++ name ++ "' for type '" ++ type.id ++ "'")

/-- What is wrong with one configured value. -/
def valueFinding? (node : Node) (type : NodeType) (name : String) (value : ConfigValue) :
    Option Diagnostic :=
  match type.field? name with
  | none => some (unknownField node type name)
  | some field =>
    if value.isBlank then none
    else (field.misfit? value).map fun m => badField node ⟨name, .misfit m⟩

/-- Required fields without a value, then values that do not fit. -/
def fieldFindings (node : Node) (type : NodeType) : List Diagnostic :=
  ((type.requiredFields.filter fun field => !node.hasValue type field.name).map
    (missingField node)) ++
  (node.config.entries.filterMap fun (name, value) => valueFinding? node type name value)

/-- The findings about the fields of one node; only where there are none, whether its settings can
be made. -/
def requiredConfigOf (node : Node) (type : NodeType) : List Diagnostic :=
  match fieldFindings node type with
  | [] =>
    match Settings.project node type with
    | .ok _ => []
    | .error fault => [badField node fault]
  | findings => findings

def requiredConfig : List Diagnostic :=
  (resolved p c).flatMap fun (node, type) => requiredConfigOf node type

/-- Whether a target upserts and names no columns. -/
def upsertsWithoutColumns (node : Node) (type : NodeType) : Bool :=
  match (node.effective? type "load_strategy").bind (·.text?) with
  | some text =>
    match LoadStrategy.parse text with
    | .ok .upsert => !node.hasValue type "columns"
    | _ => false
  | none => false

def recommendedConfigOf (node : Node) (type : NodeType) : List Diagnostic :=
  match type.category with
  | .transform =>
    if hasDescendantOf p c node.id .qualityCheck then []
    else
      [.about .warning .recommendedConfig node.id
        ("transform " ++ node.id ++ " has no downstream quality check")]
  | .target =>
    if upsertsWithoutColumns node type then
      [.about .warning .recommendedConfig node.id
        ("target " ++ node.id ++
          " upserts without 'columns'; conflicting rows will be ignored")]
    else []
  | .source | .qualityCheck => []

def recommendedConfig : List Diagnostic :=
  (resolved p c).flatMap fun (node, type) => recommendedConfigOf p c node type

/-- Sources from which no target can be reached. -/
def targetReachability : List Diagnostic :=
  ((resolved p c).filter fun (node, type) =>
    type.category == .source && !hasDescendantOf p c node.id .target).map fun (node, _) =>
    .about .warning .targetReachability node.id
      ("source " ++ node.id ++ " does not reach any target")

end Validation

end Etl
