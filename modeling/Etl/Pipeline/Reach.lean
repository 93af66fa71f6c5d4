import Etl.Pipeline.Basic

/-!
Reachability. A search follows edges from a queue of nodes and marks a node when it is taken from
the queue, so that a node may be queued several times and is still looked at once. A node enters
the queue only over an edge, so the number of edges bounds the search on every graph.
-/

namespace Etl.Pipeline

variable (p : Pipeline)

/-- Collects the nodes reachable from a queue beside those already found; `fuel` bounds the nodes
taken from the queue. -/
def search : Nat → List NodeId → SortedSet NodeId → SortedSet NodeId
  | 0, _, found => found
  | _, [], found => found
  | fuel + 1, id :: queue, found =>
    if found.contains id then search fuel queue found
    else search fuel (queue ++ p.successors id) (found.add id)

/-- Searches from a queue until an edge to a node is met; `fuel` bounds the nodes taken from the
queue. -/
def seek (target : NodeId) : Nat → List NodeId → SortedSet NodeId → Bool
  | 0, _, _ => false
  | _, [], _ => false
  | fuel + 1, id :: queue, found =>
    if found.contains id then seek target fuel queue found
    else if (p.successors id).contains target then true
    else seek target fuel (queue ++ p.successors id) (found.add id)

/-- The nodes to which a path of at least one edge leads. -/
def downstream (id : NodeId) : SortedSet NodeId :=
  p.search (p.edgeCount + (p.successors id).length + 1) (p.successors id) SortedMap.empty

/-- The nodes to which a path leads, without the start itself. -/
def descendants (id : NodeId) : SortedSet NodeId := (p.downstream id).erase id

/-- Whether a path leads from one node to another; every node reaches itself. -/
def canReach (source target : NodeId) : Bool :=
  source == target || p.seek target (p.edgeCount + 1) [source] SortedMap.empty

end Etl.Pipeline
