import Etl.Pipeline.Change
import Etl.Proofs.Pipeline.Reachable
import Etl.Proofs.Work

/-!
Changes in place have the whole effect of their operation or none. Only two of them touch the
pipeline before they know that it is accepted: they take something out that is not there.
-/

namespace Etl

/-- Takes one identifier out of the places of several nodes in an index. -/
def unlink (id : NodeId) (places : List NodeId) (index : SortedMap NodeId (SortedSet NodeId)) :
    SortedMap NodeId (SortedSet NodeId) :=
  places.foldl (fun index place => index.modify place fun ids => ids.erase id) index

section Unlink

variable {id x y : NodeId} {places : List NodeId} {index : SortedMap NodeId (SortedSet NodeId)}

theorem contains_unlink (x : NodeId) :
    (unlink id places index).contains x = index.contains x := by
  induction places generalizing index with
  | nil => rfl
  | cons place rest ih => exact ih.trans (SortedMap.contains_modify ..)

theorem get?_unlink_of_notMem (other : x ∉ places) :
    (unlink id places index).get? x = index.get? x := by
  induction places generalizing index with
  | nil => rfl
  | cons place rest ih =>
      obtain ⟨here, later⟩ := List.ne_and_not_mem_of_not_mem_cons other
      rw [unlink, List.foldl_cons, ← unlink, ih later, SortedMap.get?_modify, if_neg here]

theorem linked_unlink :
    Linked (unlink id places index) x y ↔ ¬ (x ∈ places ∧ y = id) ∧ Linked index x y := by
  induction places generalizing index with
  | nil => simp [unlink]
  | cons place rest ih =>
      rw [unlink, List.foldl_cons, ← unlink, ih, Linked.modify_erase, List.mem_cons]
      tauto

end Unlink

/-- Takes several edges out of a set. -/
def eraseEdges (dropped : List Edge) (edges : SortedSet Edge) : SortedSet Edge :=
  dropped.foldl (fun edges e => edges.erase e) edges

theorem contains_eraseEdges {dropped : List Edge} {edges : SortedSet Edge} {e : Edge} :
    (eraseEdges dropped edges).contains e ↔ e ∉ dropped ∧ edges.contains e := by
  induction dropped generalizing edges with
  | nil => simp [eraseEdges]
  | cons first rest ih =>
      rw [eraseEdges, List.foldl_cons, ← eraseEdges, ih, SortedMap.contains_erase, List.mem_cons]
      simp only [Bool.and_eq_true, Bool.not_eq_eq_eq_not, Bool.not_true, decide_eq_false_iff_not]
      tauto

namespace Pipeline

open Work

variable {p : Pipeline}

namespace Change

theorem place_of_absent {index : SortedMap NodeId (SortedSet NodeId)} {id : NodeId}
    (absent : index.contains id = false) : place index id = index.insert id SortedMap.empty := by
  simp [place, absent]

theorem place_of_present {index : SortedMap NodeId (SortedSet NodeId)} {id : NodeId}
    (present : index.contains id) : place index id = index := by
  simp [place, present]

theorem run_addNode (h : p.WellFormed) (node : Node) :
    (addNode node).run p = settle p ((p.addNode node).map (Prod.mk ())) := by
  unfold addNode Pipeline.addNode
  simp only [EStateM.run_bind, EStateM.run_get]
  split
  · rfl
  next fresh =>
    have absent : p.containsNode node.id = false := by simpa using fresh
    simp only [EStateM.run_bind, EStateM.run_modify]
    rw [place_of_absent ((h.outgoing_contains _).trans absent),
      place_of_absent ((h.incoming_contains _).trans absent)]
    rfl

theorem run_dropOutgoing (id : NodeId) (targets : List NodeId) :
    (dropOutgoing id targets).run p = .ok ()
      { p with
        incoming := unlink id targets p.incoming
        edges := eraseEdges (targets.map (Edge.mk id)) p.edges } := by
  unfold dropOutgoing
  induction targets generalizing p with
  | nil => rfl
  | cons target rest ih => exact ih

theorem run_dropIncoming (id : NodeId) (sources : List NodeId) :
    (dropIncoming id sources).run p = .ok ()
      { p with
        outgoing := unlink id sources p.outgoing
        edges := eraseEdges (sources.map fun source => ⟨source, id⟩) p.edges } := by
  unfold dropIncoming
  induction sources generalizing p with
  | nil => rfl
  | cons source rest ih => exact ih

theorem mem_leaving_iff (h : p.WellFormed) {e : Edge} (edge : p.edges.contains e) {id : NodeId} :
    e ∈ (p.successors id).map (Edge.mk id) ↔ e.source = id := by
  obtain ⟨source, target⟩ := e
  simp only [List.mem_map, h.mem_successors_iff, Edge.mk.injEq]
  constructor
  · rintro ⟨_, _, rfl, rfl⟩
    rfl
  · rintro rfl
    exact ⟨target, edge, rfl, rfl⟩

theorem mem_entering_iff (h : p.WellFormed) {e : Edge} (edge : p.edges.contains e) {id : NodeId} :
    e ∈ (p.predecessors id).map (fun source => Edge.mk source id) ↔ e.target = id := by
  obtain ⟨source, target⟩ := e
  simp only [List.mem_map, h.mem_predecessors_iff, Edge.mk.injEq]
  constructor
  · rintro ⟨_, _, rfl, rfl⟩
    rfl
  · rintro rfl
    exact ⟨source, edge, rfl, rfl⟩

/-- The edges that touch a node leave it or enter it. -/
theorem eraseEdges_incident (h : p.WellFormed) (id : NodeId) :
    eraseEdges ((p.predecessors id).map fun source => ⟨source, id⟩)
        (eraseEdges ((p.successors id).map (Edge.mk id)) p.edges) =
      p.edges.filter fun e _ => e.source != id && e.target != id := by
  refine SortedSet.ext_contains fun e => Bool.eq_iff_iff.mpr ?_
  rw [contains_eraseEdges, contains_eraseEdges, SortedMap.contains_filter]
  by_cases edge : p.edges.contains e
  · rw [mem_leaving_iff h edge, mem_entering_iff h edge]
    simp [edge, and_comm]
  · simp [edge]

theorem unlink_outgoing (h : p.WellFormed) (id : NodeId) :
    unlink id (p.predecessors id) (p.outgoing.erase id) =
      (p.outgoing.erase id).mapValues fun ids => ids.erase id := by
  refine Linked.ext_index (fun a => ?_) fun a b => ?_
  · rw [contains_unlink, SortedMap.contains_mapValues]
  · rw [linked_unlink, Linked.erase, Linked.erase_mapValues, mem_predecessors, h.incoming_linked,
      ← h.outgoing_linked]
    constructor
    · rintro ⟨apart, here, link⟩
      exact ⟨here, fun same => apart ⟨same ▸ link, same⟩, link⟩
    · rintro ⟨here, other, link⟩
      exact ⟨fun both => other both.2, here, link⟩

theorem erase_unlink_incoming (h : p.WellFormed) (id : NodeId) :
    (unlink id (p.successors id) p.incoming).erase id =
      (p.incoming.erase id).mapValues fun ids => ids.erase id := by
  refine Linked.ext_index (fun a => ?_) fun a b => ?_
  · rw [SortedMap.contains_erase, contains_unlink, SortedMap.contains_mapValues,
      SortedMap.contains_erase]
  · rw [Linked.erase, linked_unlink, Linked.erase_mapValues, mem_successors, h.outgoing_linked,
      ← h.incoming_linked]
    constructor
    · rintro ⟨here, apart, link⟩
      exact ⟨here, fun same => apart ⟨same ▸ link, same⟩, link⟩
    · rintro ⟨here, other, link⟩
      exact ⟨here, fun both => other both.2, link⟩

/-- Dropping the edges that leave a node does not touch its own place among the targets, since no
edge leads back to it at once. -/
theorem predecessors_of_unlink (h : p.WellFormed) {id : NodeId} {q : Pipeline}
    (dropped : q.incoming = unlink id (p.successors id) p.incoming) :
    q.predecessors id = p.predecessors id := by
  have other : id ∉ p.successors id := fun loop =>
    h.loopless (h.mem_successors_iff.mp loop) rfl
  rw [predecessors, predecessors, dropped, get?_unlink_of_notMem other]

theorem run_removeNode (h : p.WellFormed) (id : NodeId) :
    (removeNode id).run p = settle p (p.removeNode id) := by
  unfold removeNode Pipeline.removeNode
  simp only [EStateM.run_bind, EStateM.run_get, EStateM.run_modify, requireNode]
  cases found : p.node? id with
  | none =>
      have absent : p.nodes.contains id = false := SortedMap.not_contains_iff.mpr found
      rw [SortedMap.erase_of_absent absent]
      rfl
  | some node =>
      simp only [EStateM.run_bind, EStateM.run_get, EStateM.run_modify, run_dropOutgoing,
        run_dropIncoming, EStateM.run_pure]
      rw [predecessors_of_unlink h]
      · show EStateM.Result.ok node
          { p with
            nodes := p.nodes.erase id
            edges := eraseEdges ((p.predecessors id).map fun source => ⟨source, id⟩)
              (eraseEdges ((p.successors id).map (Edge.mk id)) p.edges)
            outgoing := unlink id (p.predecessors id) (p.outgoing.erase id)
            incoming := (unlink id (p.successors id) p.incoming).erase id } = _
        rw [eraseEdges_incident h, unlink_outgoing h, erase_unlink_incoming h]
        rfl
      · rfl

theorem run_insertEdge (h : p.WellFormed) {e : Edge} (sound : p.edgeFault? e = none) :
    (insertEdge e).run p = .ok () (p.insertEdge e) := by
  obtain ⟨source, target, _, _⟩ := edgeFault?_eq_none sound
  simp only [insertEdge, EStateM.run_bind, EStateM.run_modify]
  rw [place_of_present ((h.outgoing_contains _).trans source),
    place_of_present ((h.incoming_contains _).trans target)]
  rfl

theorem run_linkEdge (h : p.WellFormed) (e : Edge) :
    (linkEdge e).run p = settle p ((p.linkEdge e).map (Prod.mk ())) := by
  unfold linkEdge checkEdge Pipeline.linkEdge
  simp only [EStateM.run_bind, EStateM.run_get]
  cases sound : p.edgeFault? e with
  | some fault => rfl
  | none => exact run_insertEdge h sound

theorem run_addEdge (h : p.WellFormed) (e : Edge) :
    (addEdge e).run p = settle p ((p.addEdge e).map (Prod.mk ())) := by
  unfold addEdge checkEdge Pipeline.addEdge
  simp only [EStateM.run_bind, EStateM.run_get]
  cases sound : p.edgeFault? e with
  | some fault => rfl
  | none =>
      simp only [EStateM.run_pure]
      split
      · rfl
      · exact run_insertEdge h sound

theorem run_removeEdge (e : Edge) :
    (removeEdge e).run p = settle p ((p.removeEdge e).map (Prod.mk ())) := by
  unfold removeEdge Pipeline.removeEdge
  simp only [EStateM.run_bind, EStateM.run_get, EStateM.run_modify]
  cases present : p.edges.contains e with
  | false =>
      rw [SortedMap.erase_of_absent present]
      rfl
  | true => rfl

theorem run_amend (id : NodeId) (change : Node → Node) :
    (amend id change).run p = settle p ((p.editNode id change).map (Prod.mk ())) := by
  unfold amend editNode
  simp only [EStateM.run_bind, EStateM.run_get, requireNode]
  cases found : p.node? id with
  | none =>
      have absent : p.containsNode id = false := SortedMap.not_contains_iff.mpr found
      rw [absent]
      rfl
  | some node =>
      have present : p.containsNode id = true := SortedMap.contains_of_get? found
      rw [present]
      simp only [Bool.not_true, Bool.false_eq_true, if_false, EStateM.run_modify]
      rw [SortedMap.modify_eq_insert found]
      rfl

end Change

namespace Operation

/-- In place, an operation has its whole effect, or it is refused and nothing was done. -/
theorem run_change (h : p.WellFormed) (op : Operation) :
    op.change.run p = settle p ((op.perform p).map (Prod.mk ())) := by
  cases op with
  | setName name => rfl
  | addNode node => exact Change.run_addNode h node
  | removeNode id =>
      rw [change, EStateM.run_bind, Change.run_removeNode h, perform]
      cases p.removeNode id <;> rfl
  | addEdge e => exact Change.run_addEdge h e
  | linkEdge e => exact Change.run_linkEdge h e
  | removeEdge e => exact Change.run_removeEdge e
  | configure id config => exact Change.run_amend id _
  | reconfigure id changes => exact Change.run_amend id _
  | relabel id label => exact Change.run_amend id _

end Operation

end Pipeline

end Etl
