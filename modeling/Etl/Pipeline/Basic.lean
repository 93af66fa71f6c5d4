import Etl.Pipeline.Node

/-!
Pipelines: nodes and directed edges, with the neighbours of every node indexed in both directions.
Everything is kept in order, so whatever is derived from a pipeline depends on its contents alone.
-/

namespace Etl

structure Pipeline where
  id : PipelineId
  name : String
  nodes : SortedMap NodeId Node
  edges : SortedSet Edge
  /-- The targets of the edges that leave a node. -/
  outgoing : SortedMap NodeId (SortedSet NodeId)
  /-- The sources of the edges that enter a node. -/
  incoming : SortedMap NodeId (SortedSet NodeId)
deriving DecidableEq

namespace Pipeline

/-- A pipeline without nodes. -/
def empty (id : PipelineId) (name : String) : Pipeline :=
  ⟨id, name, SortedMap.empty, SortedMap.empty, SortedMap.empty, SortedMap.empty⟩

instance : Inhabited Pipeline := ⟨empty "" ""⟩

variable (p : Pipeline)

/-- The nodes in ascending order of their identifiers. -/
def nodeList : List Node := p.nodes.values

/-- The edges in ascending order. -/
def edgeList : List Edge := p.edges.toList

def node? (id : NodeId) : Option Node := p.nodes.get? id

/-- The node, which must exist. -/
def requireNode (id : NodeId) : Except Error Node :=
  match p.node? id with
  | some node => .ok node
  | none => .error (.nodeNotFound id)

def containsNode (id : NodeId) : Bool := p.nodes.contains id

/-- The direct successors of a node, ascending; an unknown node has none. -/
def successors (id : NodeId) : List NodeId :=
  match p.outgoing.get? id with
  | some ids => ids.toList
  | none => []

/-- The direct predecessors of a node, ascending; an unknown node has none. -/
def predecessors (id : NodeId) : List NodeId :=
  match p.incoming.get? id with
  | some ids => ids.toList
  | none => []

def outDegree (id : NodeId) : Nat := (p.successors id).length

def inDegree (id : NodeId) : Nat := (p.predecessors id).length

def containsEdge (source target : NodeId) : Bool := (p.successors source).contains target

def nodeCount : Nat := p.nodes.size

def edgeCount : Nat := p.edges.size

def isEmpty : Bool := p.nodes.isEmpty

end Pipeline

end Etl
