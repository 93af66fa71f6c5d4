import Etl.Pipeline.Edit

/-!
Descriptors: the persisted form of a pipeline. The canonical descriptor lists nodes and edges in
order and its text is indented JSON with one final line break.
-/

namespace Etl

namespace Edge

def toJson (e : Edge) : Json := .object [("from", .text e.source), ("to", .text e.target)]

def shape : Json.Shape Edge where
  name := "Edge"
  slots :=
    [.required "from" .text fun v e => { e with source := v },
     .required "to" .text fun v e => { e with target := v }]
  blank := ⟨"", ""⟩

end Edge

structure Descriptor where
  id : PipelineId
  name : String
  nodes : List Node
  edges : List Edge
deriving DecidableEq

namespace Descriptor

/-- Sorts nodes by identifier and edges by their ends; nodes with equal identifiers keep their
order. -/
def canonical (d : Descriptor) : Descriptor :=
  { d with
    nodes := d.nodes.mergeSort fun a b => (compare a.id b.id).isLE
    edges := d.edges.mergeSort fun a b => (compare a b).isLE }

def toJson (d : Descriptor) : Json :=
  .object
    [("id", .text d.id), ("name", .text d.name), ("nodes", .list (d.nodes.map Node.toJson)),
     ("edges", .list (d.edges.map Edge.toJson))]

def shape : Json.Shape Descriptor where
  name := "PipelineDescriptor"
  slots :=
    [.required "id" .text fun v d => { d with id := v },
     .withDefault "name" .text fun v d => { d with name := v },
     .withDefault "nodes" (.list (Node.shape (Json.maxDepth - 2)).read) fun v d =>
       { d with nodes := v },
     .withDefault "edges" (.list Edge.shape.read) fun v d => { d with edges := v }]
  blank := ⟨"", "", [], []⟩

end Descriptor

namespace Pipeline

def toDescriptor (p : Pipeline) : Descriptor := ⟨p.id, p.name, p.nodeList, p.edgeList⟩

/-- Builds a pipeline: first all nodes, then all edges, of which some may close cycles. -/
def ofDescriptor (d : Descriptor) : Except Error Pipeline := do
  let p ← d.nodes.foldlM addNode (empty d.id d.name)
  d.edges.foldlM linkEdge p

/-- The canonical text. -/
def canonicalText (p : Pipeline) : String := p.toDescriptor.toJson.indented ++ "\n"

/-- Reads a text within limits. -/
def ofText (limits : Limits) (text : String) : Except Error Pipeline := do
  (limits.accept text).mapError .oversize
  ofDescriptor (← Error.ofJson Descriptor.shape.read text)

/-- The canonical form of a text within limits. -/
def canonicalize (limits : Limits) (text : String) : Except Error String :=
  (ofText limits text).map canonicalText

end Pipeline

end Etl
