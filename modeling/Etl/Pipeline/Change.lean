import Etl.Pipeline.Edit
import Etl.Work

/-!
Changes in place: the operations of a pipeline as steps on one collection after the other. Nothing
takes a step back, so a change that is refused has to be refused before it has done anything.
-/

namespace Etl.Pipeline

abbrev Change (α : Type) := Work Pipeline α

namespace Change

/-- Gives a node an empty place in an index, unless it has a place there. -/
def place (index : SortedMap NodeId (SortedSet NodeId)) (id : NodeId) :
    SortedMap NodeId (SortedSet NodeId) :=
  if index.contains id then index else index.insert id SortedMap.empty

def setName (name : String) : Change Unit := modify fun p => p.setName name

def addNode (node : Node) : Change Unit := do
  if (← get).containsNode node.id then throw (.duplicateNode node.id)
  modify fun p => { p with outgoing := place p.outgoing node.id }
  modify fun p => { p with incoming := place p.incoming node.id }
  modify fun p => { p with nodes := p.nodes.insert node.id node }

/-- Drops the edge to each of some targets, and its link back. -/
def dropOutgoing (id : NodeId) (targets : List NodeId) : Change Unit :=
  targets.forM fun target => modify fun p =>
    { p with
      incoming := p.incoming.modify target fun ids => ids.erase id
      edges := p.edges.erase ⟨id, target⟩ }

/-- Drops the edge from each of some sources, and its link there. -/
def dropIncoming (id : NodeId) (sources : List NodeId) : Change Unit :=
  sources.forM fun source => modify fun p =>
    { p with
      outgoing := p.outgoing.modify source fun ids => ids.erase id
      edges := p.edges.erase ⟨source, id⟩ }

/-- Removes a node, then the edges that leave it, and then those that enter it. -/
def removeNode (id : NodeId) : Change Node := do
  let found := (← get).node? id
  modify fun p => { p with nodes := p.nodes.erase id }
  match found with
  | none => throw (.nodeNotFound id)
  | some node =>
    let targets := (← get).successors id
    modify fun p => { p with outgoing := p.outgoing.erase id }
    dropOutgoing id targets
    let sources := (← get).predecessors id
    modify fun p => { p with incoming := p.incoming.erase id }
    dropIncoming id sources
    return node

/-- Stops at an edge that cannot be added to a simple graph. -/
def checkEdge (e : Edge) : Change Unit := do
  match (← get).edgeFault? e with
  | some fault => throw fault
  | none => return

def insertEdge (e : Edge) : Change Unit := do
  modify fun p =>
    { p with outgoing := (place p.outgoing e.source).modify e.source fun ids => ids.add e.target }
  modify fun p =>
    { p with incoming := (place p.incoming e.target).modify e.target fun ids => ids.add e.source }
  modify fun p => { p with edges := p.edges.add e }

def linkEdge (e : Edge) : Change Unit := do
  checkEdge e
  insertEdge e

def addEdge (e : Edge) : Change Unit := do
  checkEdge e
  if (← get).canReach e.target e.source then throw (.cycleWouldForm e)
  insertEdge e

def removeEdge (e : Edge) : Change Unit := do
  let present := (← get).edges.contains e
  modify fun p => { p with edges := p.edges.erase e }
  if !present then throw (.edgeNotFound e)
  modify fun p => { p with outgoing := p.outgoing.modify e.source fun ids => ids.erase e.target }
  modify fun p => { p with incoming := p.incoming.modify e.target fun ids => ids.erase e.source }

/-- Changes a node where it stands; its identifier stays. -/
def amend (id : NodeId) (change : Node → Node) : Change Unit := do
  if !(← get).containsNode id then throw (.nodeNotFound id)
  modify fun p =>
    { p with nodes := p.nodes.modify id fun node => { change node with id := node.id } }

end Change

inductive Operation where
  | setName (name : String)
  | addNode (node : Node)
  | removeNode (id : NodeId)
  | addEdge (e : Edge)
  | linkEdge (e : Edge)
  | removeEdge (e : Edge)
  | configure (id : NodeId) (config : Config)
  | reconfigure (id : NodeId) (changes : Config)
  | relabel (id : NodeId) (label : String)

namespace Operation

def change : Operation → Change Unit
  | setName name => Change.setName name
  | addNode node => Change.addNode node
  | removeNode id => do
    let _ ← Change.removeNode id
    return ()
  | addEdge e => Change.addEdge e
  | linkEdge e => Change.linkEdge e
  | removeEdge e => Change.removeEdge e
  | configure id config => Change.amend id fun node => { node with config }
  | reconfigure id changes => Change.amend id fun node => node.updated changes
  | relabel id label => Change.amend id fun node => { node with label }

/-- The pipeline after the operation. -/
def perform (p : Pipeline) : Operation → Except Error Pipeline
  | setName name => .ok (p.setName name)
  | addNode node => p.addNode node
  | removeNode id => (p.removeNode id).map (·.2)
  | addEdge e => p.addEdge e
  | linkEdge e => p.linkEdge e
  | removeEdge e => p.removeEdge e
  | configure id config => p.configure id config
  | reconfigure id changes => p.reconfigure id changes
  | relabel id label => p.relabel id label

/-- The pipeline after operations of which some may be refused. -/
def run (p : Pipeline) (ops : List Operation) : Pipeline :=
  ops.foldl (fun p op => op.change.after p) p

end Operation

end Etl.Pipeline
