import Etl.Pipeline.Reach

/-!
Changes of a pipeline. Each looks first whether the pipeline would stay a simple graph, and changes
nothing when it would not. A new edge may not close a cycle; only a pipeline loaded from outside can
have cycles, so that validation can report them.
-/

namespace Etl.Pipeline

variable (p : Pipeline)

def setName (name : String) : Pipeline := { p with name }

def addNode (node : Node) : Except Error Pipeline :=
  if p.containsNode node.id then .error (.duplicateNode node.id)
  else
    .ok { p with
      nodes := p.nodes.insert node.id node
      outgoing := p.outgoing.insert node.id SortedMap.empty
      incoming := p.incoming.insert node.id SortedMap.empty }

/-- Removes a node and every edge that touches it. -/
def removeNode (id : NodeId) : Except Error (Node × Pipeline) := do
  let node ← p.requireNode id
  return (node, { p with
    nodes := p.nodes.erase id
    edges := p.edges.filter fun e _ => e.source != id && e.target != id
    outgoing := (p.outgoing.erase id).mapValues fun ids => ids.erase id
    incoming := (p.incoming.erase id).mapValues fun ids => ids.erase id })

/-- Why an edge cannot be added to a simple graph. -/
def edgeFault? (e : Edge) : Option Error :=
  if !p.containsNode e.source then some (.nodeNotFound e.source)
  else if !p.containsNode e.target then some (.nodeNotFound e.target)
  else if e.source = e.target then some (.selfLoop e.source)
  else if p.containsEdge e.source e.target then some (.duplicateEdge e)
  else none

/-- Puts an edge into the set and both indexes. -/
def insertEdge (e : Edge) : Pipeline :=
  { p with
    edges := p.edges.add e
    outgoing := p.outgoing.modify e.source fun ids => ids.add e.target
    incoming := p.incoming.modify e.target fun ids => ids.add e.source }

/-- Adds an edge that may close a cycle. -/
def linkEdge (e : Edge) : Except Error Pipeline :=
  match p.edgeFault? e with
  | some fault => .error fault
  | none => .ok (p.insertEdge e)

/-- Adds an edge unless its target already reaches its source. -/
def addEdge (e : Edge) : Except Error Pipeline :=
  match p.edgeFault? e with
  | some fault => .error fault
  | none =>
    if p.canReach e.target e.source then .error (.cycleWouldForm e) else .ok (p.insertEdge e)

def removeEdge (e : Edge) : Except Error Pipeline :=
  if p.edges.contains e then
    .ok { p with
      edges := p.edges.erase e
      outgoing := p.outgoing.modify e.source fun ids => ids.erase e.target
      incoming := p.incoming.modify e.target fun ids => ids.erase e.source }
  else .error (.edgeNotFound e)

/-- Changes a node in place; its identifier stays. Mutable access to a node would also allow
writing another identifier into it, which leaves the node under a key that is not its own. That is
left out: no operation on pipelines or documents does it. -/
def editNode (id : NodeId) (change : Node → Node) : Except Error Pipeline := do
  let node ← p.requireNode id
  return { p with nodes := p.nodes.insert id { change node with id := node.id } }

/-- Replaces the configuration of a node. -/
def configure (id : NodeId) (config : Config) : Except Error Pipeline :=
  p.editNode id fun node => { node with config }

/-- Puts values over the configuration of a node. -/
def reconfigure (id : NodeId) (changes : Config) : Except Error Pipeline :=
  p.editNode id fun node => node.updated changes

/-- Replaces the label of a node. -/
def relabel (id : NodeId) (label : String) : Except Error Pipeline :=
  p.editNode id fun node => { node with label }

end Etl.Pipeline
