import Etl.Document.Edit
import Etl.Pipeline.Descriptor
import Etl.Proofs.Results
import Etl.Proofs.SortedMap

/-!
Well-formed pipelines: the four collections of a pipeline describe one simple graph. Every operation
on pipelines keeps the invariant, so every pipeline that can come about is well-formed, whether it
was built by hand or loaded, and also when it has cycles.
-/

namespace Etl

theorem Edge.mk_eq_iff {e : Edge} {a b : NodeId} : ⟨a, b⟩ = e ↔ a = e.source ∧ b = e.target := by
  cases e
  simp

/-- Whether an index of neighbours leads from one identifier to another. -/
def Linked (index : SortedMap NodeId (SortedSet NodeId)) (a b : NodeId) : Prop :=
  ∃ ids, index.get? a = some ids ∧ ids.contains b

namespace Linked

variable {index : SortedMap NodeId (SortedSet NodeId)} {a b x y : NodeId}

theorem not_empty : ¬ Linked SortedMap.empty x y := by
  rintro ⟨ids, found, _⟩
  simp at found

theorem insert_empty (absent : index.contains a = false) :
    Linked (index.insert a SortedMap.empty) x y ↔ Linked index x y := by
  unfold Linked
  by_cases same : x = a
  · subst same
    have missing := SortedMap.not_contains_iff.mp absent
    simp [SortedMap.get?_insert, missing]
  · simp [SortedMap.get?_insert, same]

theorem modify_add (present : index.contains a) :
    Linked (index.modify a fun ids => ids.add b) x y ↔
      (x = a ∧ y = b) ∨ Linked index x y := by
  unfold Linked
  by_cases same : x = a
  · subst same
    obtain ⟨ids, found⟩ := SortedMap.contains_iff.mp present
    simp [SortedMap.get?_modify, found]
  · simp [SortedMap.get?_modify, same]

theorem modify_erase :
    Linked (index.modify a fun ids => ids.erase b) x y ↔
      ¬ (x = a ∧ y = b) ∧ Linked index x y := by
  unfold Linked
  by_cases same : x = a
  · subst same
    cases found : index.get? x <;> simp [SortedMap.get?_modify, found]
  · simp [SortedMap.get?_modify, same]

theorem erase : Linked (index.erase a) x y ↔ x ≠ a ∧ Linked index x y := by
  unfold Linked
  by_cases same : x = a <;> simp [SortedMap.get?_erase, same]

theorem erase_mapValues :
    Linked ((index.erase a).mapValues fun ids => ids.erase a) x y ↔
      x ≠ a ∧ y ≠ a ∧ Linked index x y := by
  unfold Linked
  by_cases same : x = a
  · simp [SortedMap.get?_mapValues, SortedMap.get?_erase, same]
  · cases found : index.get? x <;>
      simp [SortedMap.get?_mapValues, SortedMap.get?_erase, same, found]

/-- An index is determined by its keys and the pairs it links. -/
theorem ext_index {m n : SortedMap NodeId (SortedSet NodeId)}
    (keys : ∀ a, m.contains a = n.contains a) (linked : ∀ a b, Linked m a b ↔ Linked n a b) :
    m = n := by
  apply SortedMap.ext_get?
  intro a
  have present := keys a
  have same := linked a
  cases hm : m.get? a <;> cases hn : n.get? a <;>
    simp only [SortedMap.contains, hm, hn, Option.isSome_some, Option.isSome_none,
      reduceCtorEq] at present ⊢
  next s t =>
    refine congrArg some (SortedSet.ext_contains fun b => ?_)
    simp only [Linked, hm, hn, Option.some.injEq, exists_eq_left'] at same
    exact Bool.eq_iff_iff.mpr (same b)

end Linked

namespace Pipeline

/-- The collections of a pipeline agree: nodes stand under their own identifiers, edges join
different nodes of the pipeline, and the two indexes hold exactly the edges. -/
structure WellFormed (p : Pipeline) : Prop where
  keyed : ∀ {id node}, p.node? id = some node → node.id = id
  ends : ∀ {e}, p.edges.contains e → p.containsNode e.source ∧ p.containsNode e.target
  loopless : ∀ {e}, p.edges.contains e → e.source ≠ e.target
  outgoing_contains : ∀ id, p.outgoing.contains id = p.containsNode id
  incoming_contains : ∀ id, p.incoming.contains id = p.containsNode id
  outgoing_linked : ∀ {a b}, Linked p.outgoing a b ↔ p.edges.contains ⟨a, b⟩
  incoming_linked : ∀ {a b}, Linked p.incoming b a ↔ p.edges.contains ⟨a, b⟩

theorem mem_successors {p : Pipeline} {a b : NodeId} :
    b ∈ p.successors a ↔ Linked p.outgoing a b := by
  unfold successors Linked
  cases p.outgoing.get? a <;> simp [SortedSet.mem_toList]

theorem mem_predecessors {p : Pipeline} {a b : NodeId} :
    a ∈ p.predecessors b ↔ Linked p.incoming b a := by
  unfold predecessors Linked
  cases p.incoming.get? b <;> simp [SortedSet.mem_toList]

theorem successors_nodup (p : Pipeline) (id : NodeId) : (p.successors id).Nodup := by
  unfold successors
  split
  · exact SortedSet.toList_nodup _
  · exact List.nodup_nil

theorem predecessors_nodup (p : Pipeline) (id : NodeId) : (p.predecessors id).Nodup := by
  unfold predecessors
  split
  · exact SortedSet.toList_nodup _
  · exact List.nodup_nil

theorem predecessors_pairwise (p : Pipeline) (id : NodeId) :
    (p.predecessors id).Pairwise fun a b => compare a b = .lt := by
  unfold predecessors
  split
  · exact SortedMap.keys_pairwise _
  · exact .nil

theorem mem_edgeList {p : Pipeline} {e : Edge} : e ∈ p.edgeList ↔ p.edges.contains e :=
  SortedSet.mem_toList

theorem mem_nodeList {p : Pipeline} {node : Node} :
    node ∈ p.nodeList ↔ ∃ id, p.node? id = some node := SortedMap.mem_values

theorem containsNode_iff {p : Pipeline} {id : NodeId} :
    p.containsNode id ↔ ∃ node, p.node? id = some node := SortedMap.contains_iff

namespace WellFormed

variable {p : Pipeline}

theorem mem_successors_iff (h : p.WellFormed) {a b : NodeId} :
    b ∈ p.successors a ↔ p.edges.contains ⟨a, b⟩ :=
  mem_successors.trans h.outgoing_linked

theorem mem_predecessors_iff (h : p.WellFormed) {a b : NodeId} :
    a ∈ p.predecessors b ↔ p.edges.contains ⟨a, b⟩ :=
  mem_predecessors.trans h.incoming_linked

theorem mem_predecessors_iff_mem_successors (h : p.WellFormed) {a b : NodeId} :
    a ∈ p.predecessors b ↔ b ∈ p.successors a :=
  h.mem_predecessors_iff.trans h.mem_successors_iff.symm

theorem containsNode_of_mem_successors (h : p.WellFormed) {a b : NodeId}
    (edge : b ∈ p.successors a) : p.containsNode a ∧ p.containsNode b := by
  have ends := h.ends (h.mem_successors_iff.mp edge)
  exact ends

theorem mem_nodeList_iff (h : p.WellFormed) {node : Node} :
    node ∈ p.nodeList ↔ p.node? node.id = some node := by
  rw [mem_nodeList]
  constructor
  · rintro ⟨id, found⟩
    rw [h.keyed found]
    exact found
  · exact fun found => ⟨node.id, found⟩

theorem mem_nodeList_and_id_iff (h : p.WellFormed) {id : NodeId} {node : Node} :
    node ∈ p.nodeList ∧ node.id = id ↔ p.node? id = some node := by
  constructor
  · rintro ⟨visited, rfl⟩
    exact h.mem_nodeList_iff.mp visited
  · exact fun found => ⟨mem_nodeList.mpr ⟨id, found⟩, h.keyed found⟩

theorem map_id_nodeList (h : p.WellFormed) : p.nodeList.map (·.id) = p.nodes.keys := by
  rw [nodeList, SortedMap.values, SortedMap.keys, List.map_map]
  apply List.map_congr_left
  intro e member
  exact h.keyed (SortedMap.get?_eq_some_iff.mpr member)

end WellFormed

/-- Two pipelines have nodes under the same identifiers, and the same edges. -/
structure SameGraph (p q : Pipeline) : Prop where
  keys : p.nodes.keys = q.nodes.keys
  edges : p.edges = q.edges

namespace SameGraph

variable {p q : Pipeline} (same : p.SameGraph q)

include same

theorem containsNode_eq (id : NodeId) : p.containsNode id = q.containsNode id := by
  rw [containsNode, containsNode, Bool.eq_iff_iff, ← SortedMap.mem_keys, ← SortedMap.mem_keys,
    same.keys]

theorem nodeCount_eq : p.nodeCount = q.nodeCount := by
  rw [nodeCount, nodeCount, ← SortedMap.length_keys, ← SortedMap.length_keys, same.keys]

variable (hp : p.WellFormed) (hq : q.WellFormed)

include hp hq

theorem outgoing_eq : p.outgoing = q.outgoing := by
  refine Linked.ext_index (fun a => ?_) fun a b => ?_
  · rw [hp.outgoing_contains, hq.outgoing_contains, same.containsNode_eq]
  · rw [hp.outgoing_linked, hq.outgoing_linked, same.edges]

theorem incoming_eq : p.incoming = q.incoming := by
  refine Linked.ext_index (fun a => ?_) fun a b => ?_
  · rw [hp.incoming_contains, hq.incoming_contains, same.containsNode_eq]
  · rw [hp.incoming_linked, hq.incoming_linked, same.edges]

theorem successors_eq : p.successors = q.successors := by
  funext id
  rw [successors, successors, same.outgoing_eq hp hq]

theorem predecessors_eq : p.predecessors = q.predecessors := by
  funext id
  rw [predecessors, predecessors, same.incoming_eq hp hq]

end SameGraph

section Related

variable {p q : Pipeline} (hp : p.WellFormed) (hq : q.WellFormed) {related : Node → Node → Prop}
  (ids : ∀ a b, related a b → a.id = b.id) (nodes : List.Forall₂ related p.nodeList q.nodeList)

include hp hq ids nodes

/-- Nodes that are related one by one stand under the same identifiers. -/
theorem SameGraph.of_nodes (edges : p.edges = q.edges) : p.SameGraph q where
  keys := by
    rw [← hp.map_id_nodeList, ← hq.map_id_nodeList]
    have same := List.rel_map (P := (· = ·)) ids nodes
    exact List.forall₂_eq_eq_eq ▸ same
  edges := edges

theorem related_of_node? {id : NodeId} {a b : Node} (left : p.node? id = some a)
    (right : q.node? id = some b) : related a b := by
  obtain ⟨visited, key⟩ := hp.mem_nodeList_and_id_iff.mpr left
  obtain ⟨other, member, same⟩ := Results.exists_of_mem_forall₂ nodes.flip visited
  have found : q.node? id = some other :=
    hq.mem_nodeList_and_id_iff.mp ⟨member, (ids a other same).symm.trans key⟩
  obtain rfl := Option.some.inj (right.symm.trans found)
  exact same

end Related

/-- A well-formed pipeline is determined by its name, nodes and edges. -/
theorem WellFormed.ext {p q : Pipeline} (hp : p.WellFormed) (hq : q.WellFormed) (id : p.id = q.id)
    (name : p.name = q.name) (nodes : p.nodes = q.nodes) (edges : p.edges = q.edges) : p = q := by
  have same : p.SameGraph q := ⟨congrArg SortedMap.keys nodes, edges⟩
  have outgoing := same.outgoing_eq hp hq
  have incoming := same.incoming_eq hp hq
  rcases p with ⟨pid, pname, pnodes, pedges, pout, pin⟩
  rcases q with ⟨qid, qname, qnodes, qedges, qout, qin⟩
  exact congr (congr (congr (congr (congr (congrArg Pipeline.mk id) name) nodes) edges) outgoing)
    incoming

end Pipeline

end Etl
