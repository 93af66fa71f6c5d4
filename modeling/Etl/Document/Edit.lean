import Etl.Catalog
import Etl.Pipeline.Edit

/-!
Edits of a document. An edit that brings in configuration is checked against the catalog before the
pipeline is touched.
-/

namespace Etl

inductive Edit where
  | addNode (node : Node)
  | removeNode (id : NodeId)
  | addEdge (edge : Edge)
  | removeEdge (edge : Edge)
  | setConfig (id : NodeId) (config : Config)
  /-- Puts values over the present ones. -/
  | updateConfig (id : NodeId) (changes : Config)
  | setLabel (id : NodeId) (label : String)
  | rename (name : String)

namespace Edit

def name : Edit → String
  | addNode _ => "add_node"
  | removeNode _ => "remove_node"
  | addEdge _ => "add_edge"
  | removeEdge _ => "remove_edge"
  | setConfig .. => "set_node_config"
  | updateConfig .. => "update_node_config"
  | setLabel .. => "set_node_label"
  | rename _ => "rename"

/-- The node that the edit is about. -/
def node? : Edit → Option NodeId
  | addNode node => some node.id
  | removeNode id | setConfig id _ | updateConfig id _ | setLabel id _ => some id
  | addEdge _ | removeEdge _ | rename _ => none

/-- Checks the configuration that a node of the pipeline would have. -/
def checkNode (c : Catalog) (p : Pipeline) (id : NodeId) (change : Node → Node) :
    Except Error Unit := do
  let node ← p.requireNode id
  let type ← c.lookup node.type
  (change node).checkConfig type

/-- Checks the configuration that the edit brings in. -/
def check (c : Catalog) (p : Pipeline) : Edit → Except Error Unit
  | addNode node => do
    let type ← c.lookup node.type
    node.checkConfig type
  | setConfig id config => checkNode c p id fun node => { node with config }
  | updateConfig id changes => checkNode c p id fun node => node.updated changes
  | removeNode _ | addEdge _ | removeEdge _ | setLabel .. | rename _ => .ok ()

/-- The pipeline after the edit. -/
def perform (p : Pipeline) : Edit → Except Error Pipeline
  | addNode node => p.addNode node
  | removeNode id => (p.removeNode id).map (·.2)
  | addEdge edge => p.addEdge edge
  | removeEdge edge => p.removeEdge edge
  | setConfig id config => p.configure id config
  | updateConfig id changes => p.reconfigure id changes
  | setLabel id label => p.relabel id label
  | rename name => .ok (p.setName name)

end Edit

end Etl
