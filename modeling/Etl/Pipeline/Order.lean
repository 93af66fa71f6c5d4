import Etl.Pipeline.Basic

/-!
The order in which every edge points forward. Nodes are emitted one by one; each holds the number of
its predecessors not yet emitted, and among the nodes that have none left the least is next. Nodes
that are never emitted lie on a cycle or behind one.
-/

namespace Etl.Pipeline

/-- A stage of the ordering. -/
structure Stage where
  /-- How many predecessors of each node are still to come. -/
  degree : SortedMap NodeId Nat
  /-- The nodes that can be emitted. -/
  ready : SortedSet NodeId
  /-- The nodes emitted so far, in order. -/
  emitted : List NodeId

namespace Stage

/-- The stage before any node is emitted. -/
def initial (p : Pipeline) : Stage where
  degree :=
    ⟨p.nodes.entries.map fun e => (e.1, p.inDegree e.1), List.pairwise_map.mpr p.nodes.ascending⟩
  ready := (p.nodes.filter fun id _ => p.inDegree id == 0).mapValues fun _ => ()
  emitted := []

/-- Counts one predecessor of a node as emitted. -/
def release (s : Stage) (id : NodeId) : Stage :=
  match s.degree.get? id with
  | none => s
  | some degree =>
    { s with
      degree := s.degree.insert id (degree - 1)
      ready := if degree - 1 = 0 then s.ready.add id else s.ready }

/-- Emits the least node that is ready. -/
def step? (p : Pipeline) (s : Stage) : Option Stage :=
  match s.ready.popFirst? with
  | none => none
  | some ((id, _), ready) =>
    some <| (p.successors id).foldl release
      { s with ready, emitted := s.emitted ++ [id] }

/-- Emits nodes while one is ready; `fuel` bounds the steps. -/
def run (p : Pipeline) : Nat → Stage → Stage
  | 0, s => s
  | fuel + 1, s =>
    match s.step? p with
    | none => s
    | some s => run p fuel s

end Stage

/-- The nodes in the least order in which every edge points forward. Where there is none, the error
names every node that could not be emitted. -/
def order (p : Pipeline) : Except Error (List NodeId) :=
  let last := Stage.run p p.nodeCount (.initial p)
  if last.emitted.length = p.nodeCount then .ok last.emitted
  else .error (.cycleDetected (last.degree.filter fun _ degree => degree != 0).keys)

end Etl.Pipeline
