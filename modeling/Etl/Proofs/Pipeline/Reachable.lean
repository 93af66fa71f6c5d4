import Etl.Proofs.Pipeline.WellFormed

/-!
Every pipeline that can come about is well-formed. One lemma for each operation says that it keeps
the invariant; a pipeline is reachable when it starts empty or loaded and goes through any number of
accepted operations.
-/

namespace Etl.Pipeline

variable {p q : Pipeline}

theorem empty_wellFormed (id : PipelineId) (name : String) : (empty id name).WellFormed where
  keyed found := by cases found
  ends found := by cases found
  loopless found := by cases found
  outgoing_contains _ := rfl
  incoming_contains _ := rfl
  outgoing_linked := iff_of_false Linked.not_empty (by simp [empty])
  incoming_linked := iff_of_false Linked.not_empty (by simp [empty])

namespace WellFormed

theorem setName (h : p.WellFormed) (name : String) : (p.setName name).WellFormed where
  keyed := h.keyed
  ends := h.ends
  loopless := h.loopless
  outgoing_contains := h.outgoing_contains
  incoming_contains := h.incoming_contains
  outgoing_linked := h.outgoing_linked
  incoming_linked := h.incoming_linked

end WellFormed

theorem addNode_eq_ok {node : Node} (added : p.addNode node = .ok q) :
    p.containsNode node.id = false ∧
      q = { p with
        nodes := p.nodes.insert node.id node
        outgoing := p.outgoing.insert node.id SortedMap.empty
        incoming := p.incoming.insert node.id SortedMap.empty } := by
  unfold addNode at added
  split at added
  · cases added
  next absent => exact ⟨by simpa using absent, (Except.ok.inj added).symm⟩

/-- A new node brings no edges: the indexes get a key and no link. -/
theorem WellFormed.addNode {node : Node} (h : p.WellFormed) (added : p.addNode node = .ok q) :
    q.WellFormed := by
  obtain ⟨absent, rfl⟩ := addNode_eq_ok added
  have absentOut : p.outgoing.contains node.id = false := (h.outgoing_contains _).trans absent
  have absentIn : p.incoming.contains node.id = false := (h.incoming_contains _).trans absent
  constructor
  case keyed =>
    intro id found read
    simp only [node?, SortedMap.get?_insert] at read
    split at read
    next same =>
      cases read
      exact same.symm
    next => exact h.keyed read
  case ends =>
    intro e edge
    have ends := h.ends edge
    simp only [containsNode] at ends ⊢
    simp [ends.1, ends.2]
  case loopless => exact h.loopless
  case outgoing_contains =>
    intro id
    have old := h.outgoing_contains id
    simp only [containsNode] at old ⊢
    simp [old]
  case incoming_contains =>
    intro id
    have old := h.incoming_contains id
    simp only [containsNode] at old ⊢
    simp [old]
  case outgoing_linked =>
    intro a b
    exact (Linked.insert_empty absentOut).trans h.outgoing_linked
  case incoming_linked =>
    intro a b
    exact (Linked.insert_empty absentIn).trans h.incoming_linked

theorem edgeFault?_eq_none {e : Edge} (sound : p.edgeFault? e = none) :
    p.containsNode e.source ∧ p.containsNode e.target ∧ e.source ≠ e.target ∧
      p.containsEdge e.source e.target = false := by
  unfold edgeFault? at sound
  split at sound
  · cases sound
  next source =>
    split at sound
    · cases sound
    next target =>
      split at sound
      · cases sound
      next apart =>
        split at sound
        · cases sound
        next fresh =>
          exact ⟨by simpa using source, by simpa using target, apart, by simpa using fresh⟩

theorem edgeFault?_of_new (h : p.WellFormed) {e : Edge} (source : p.containsNode e.source)
    (target : p.containsNode e.target) (apart : e.source ≠ e.target)
    (fresh : p.edges.contains e = false) : p.edgeFault? e = none := by
  have unlinked : p.containsEdge e.source e.target = false := by
    rw [containsEdge, List.contains_eq_mem, decide_eq_false_iff_not, h.mem_successors_iff]
    simp [fresh]
  simp [edgeFault?, source, target, apart, unlinked]

theorem insertEdge_edges (e x : Edge) :
    (p.insertEdge e).edges.contains x ↔ x = e ∨ p.edges.contains x := by
  simp [insertEdge]

theorem WellFormed.insertEdge {e : Edge} (h : p.WellFormed) (sound : p.edgeFault? e = none) :
    (p.insertEdge e).WellFormed := by
  obtain ⟨source, target, apart, _⟩ := edgeFault?_eq_none sound
  have presentOut : p.outgoing.contains e.source := (h.outgoing_contains _).trans source
  have presentIn : p.incoming.contains e.target := (h.incoming_contains _).trans target
  constructor
  case keyed => exact h.keyed
  case ends =>
    intro x edge
    rcases (insertEdge_edges e x).mp edge with rfl | edge
    · exact ⟨source, target⟩
    · exact h.ends edge
  case loopless =>
    intro x edge
    rcases (insertEdge_edges e x).mp edge with rfl | edge
    · exact apart
    · exact h.loopless edge
  case outgoing_contains =>
    intro id
    exact (SortedMap.contains_modify ..).trans (h.outgoing_contains id)
  case incoming_contains =>
    intro id
    exact (SortedMap.contains_modify ..).trans (h.incoming_contains id)
  case outgoing_linked =>
    intro a b
    rw [insertEdge_edges, ← h.outgoing_linked, Pipeline.insertEdge, Linked.modify_add presentOut]
    simp [Edge.mk_eq_iff]
  case incoming_linked =>
    intro a b
    rw [insertEdge_edges, ← h.incoming_linked, Pipeline.insertEdge, Linked.modify_add presentIn]
    simp [Edge.mk_eq_iff, and_comm]

theorem linkEdge_eq_ok {e : Edge} (linked : p.linkEdge e = .ok q) :
    p.edgeFault? e = none ∧ q = p.insertEdge e := by
  unfold linkEdge at linked
  split at linked
  · cases linked
  next sound => exact ⟨sound, (Except.ok.inj linked).symm⟩

theorem addEdge_eq_ok {e : Edge} (added : p.addEdge e = .ok q) :
    p.edgeFault? e = none ∧ p.canReach e.target e.source = false ∧ q = p.insertEdge e := by
  unfold addEdge at added
  split at added
  · cases added
  next sound =>
    split at added
    · cases added
    next apart => exact ⟨sound, by simpa using apart, (Except.ok.inj added).symm⟩

theorem removeEdge_eq_ok {e : Edge} (removed : p.removeEdge e = .ok q) :
    q = { p with
      edges := p.edges.erase e
      outgoing := p.outgoing.modify e.source fun ids => ids.erase e.target
      incoming := p.incoming.modify e.target fun ids => ids.erase e.source } := by
  unfold removeEdge at removed
  split at removed
  · exact (Except.ok.inj removed).symm
  · cases removed

theorem WellFormed.removeEdge {e : Edge} (h : p.WellFormed) (removed : p.removeEdge e = .ok q) :
    q.WellFormed := by
  have edges : ∀ x, (p.edges.erase e).contains x ↔ x ≠ e ∧ p.edges.contains x := by simp
  cases removeEdge_eq_ok removed
  constructor
  case keyed => exact h.keyed
  case ends => exact fun edge => h.ends ((edges _).mp edge).2
  case loopless => exact fun edge => h.loopless ((edges _).mp edge).2
  case outgoing_contains =>
    intro id
    exact (SortedMap.contains_modify ..).trans (h.outgoing_contains id)
  case incoming_contains =>
    intro id
    exact (SortedMap.contains_modify ..).trans (h.incoming_contains id)
  case outgoing_linked =>
    intro a b
    rw [edges, ← h.outgoing_linked, Linked.modify_erase]
    simp [Edge.mk_eq_iff]
  case incoming_linked =>
    intro a b
    rw [edges, ← h.incoming_linked, Linked.modify_erase]
    simp [Edge.mk_eq_iff, and_comm]

theorem requireNode_eq_ok {id : NodeId} {node : Node} :
    p.requireNode id = .ok node ↔ p.node? id = some node := by
  unfold requireNode
  cases p.node? id <;> simp

theorem removeNode_eq_ok {id : NodeId} {node : Node} (removed : p.removeNode id = .ok (node, q)) :
    p.node? id = some node ∧
      q = { p with
        nodes := p.nodes.erase id
        edges := p.edges.filter fun e _ => e.source != id && e.target != id
        outgoing := (p.outgoing.erase id).mapValues fun ids => ids.erase id
        incoming := (p.incoming.erase id).mapValues fun ids => ids.erase id } := by
  unfold removeNode at removed
  cases required : p.requireNode id with
  | error fault =>
      rw [required] at removed
      cases removed
  | ok found =>
      rw [required] at removed
      cases removed
      exact ⟨requireNode_eq_ok.mp required, rfl⟩

/-- The edges that stay when a node goes. -/
theorem contains_apart {edges : SortedSet Edge} {id : NodeId} {x : Edge} :
    (edges.filter fun e _ => e.source != id && e.target != id).contains x ↔
      x.source ≠ id ∧ x.target ≠ id ∧ edges.contains x := by
  rw [SortedMap.contains_filter]
  simp [and_assoc]

theorem WellFormed.removeNode {id : NodeId} {node : Node} (h : p.WellFormed)
    (removed : p.removeNode id = .ok (node, q)) : q.WellFormed := by
  obtain ⟨_, rfl⟩ := removeNode_eq_ok removed
  constructor
  case keyed =>
    intro other found read
    simp only [node?, SortedMap.get?_erase] at read
    split at read
    · cases read
    · exact h.keyed read
  case ends =>
    intro x edge
    obtain ⟨source, target, edge⟩ := contains_apart.mp edge
    have ends := h.ends edge
    simp only [containsNode] at ends ⊢
    simp [source, target, ends.1, ends.2]
  case loopless => exact fun edge => h.loopless (contains_apart.mp edge).2.2
  case outgoing_contains =>
    intro other
    have old := h.outgoing_contains other
    simp only [containsNode] at old ⊢
    simp [old]
  case incoming_contains =>
    intro other
    have old := h.incoming_contains other
    simp only [containsNode] at old ⊢
    simp [old]
  case outgoing_linked =>
    intro a b
    rw [contains_apart, ← h.outgoing_linked, Linked.erase_mapValues]
  case incoming_linked =>
    intro a b
    rw [contains_apart, ← h.incoming_linked, Linked.erase_mapValues]
    exact and_left_comm

theorem editNode_eq_ok {id : NodeId} {change : Node → Node}
    (edited : p.editNode id change = .ok q) :
    ∃ node, p.node? id = some node ∧
      q = { p with nodes := p.nodes.insert id { change node with id := node.id } } := by
  unfold editNode at edited
  cases required : p.requireNode id with
  | error fault =>
      rw [required] at edited
      cases edited
  | ok node =>
      rw [required] at edited
      exact ⟨node, requireNode_eq_ok.mp required, (Except.ok.inj edited).symm⟩

theorem WellFormed.editNode {id : NodeId} {change : Node → Node} (h : p.WellFormed)
    (edited : p.editNode id change = .ok q) : q.WellFormed := by
  obtain ⟨node, found, rfl⟩ := editNode_eq_ok edited
  have present : p.containsNode id := containsNode_iff.mpr ⟨node, found⟩
  have same : ∀ other value,
      (p.nodes.insert id value).contains other = p.containsNode other := by
    intro other value
    by_cases here : other = id
    · simp [here, present]
    · simp [here, containsNode]
  constructor
  case keyed =>
    intro other value read
    simp only [node?, SortedMap.get?_insert] at read
    split at read
    next here =>
      have key := h.keyed found
      rw [← Option.some.inj read, here]
      exact key
    next => exact h.keyed read
  case ends =>
    intro e edge
    have ends := h.ends edge
    simp only [containsNode] at ends same ⊢
    simp [same, ends.1, ends.2]
  case loopless => exact h.loopless
  case outgoing_contains => exact fun other => (h.outgoing_contains other).trans (same other _).symm
  case incoming_contains => exact fun other => (h.incoming_contains other).trans (same other _).symm
  case outgoing_linked => exact h.outgoing_linked
  case incoming_linked => exact h.incoming_linked

/-- One accepted operation on a pipeline. -/
inductive Step : Pipeline → Pipeline → Prop
  | setName (p : Pipeline) (name : String) : Step p (p.setName name)
  | addNode {p q : Pipeline} {node : Node} (added : p.addNode node = .ok q) : Step p q
  | removeNode {p q : Pipeline} {id : NodeId} {node : Node}
      (removed : p.removeNode id = .ok (node, q)) : Step p q
  | addEdge {p q : Pipeline} {e : Edge} (added : p.addEdge e = .ok q) : Step p q
  | linkEdge {p q : Pipeline} {e : Edge} (linked : p.linkEdge e = .ok q) : Step p q
  | removeEdge {p q : Pipeline} {e : Edge} (removed : p.removeEdge e = .ok q) : Step p q
  | editNode {p q : Pipeline} {id : NodeId} {change : Node → Node}
      (edited : p.editNode id change = .ok q) : Step p q

theorem Step.wellFormed (step : Step p q) (h : p.WellFormed) : q.WellFormed := by
  cases step with
  | setName name => exact h.setName name
  | addNode added => exact h.addNode added
  | removeNode removed => exact h.removeNode removed
  | addEdge added =>
      obtain ⟨sound, _, rfl⟩ := addEdge_eq_ok added
      exact h.insertEdge sound
  | linkEdge linked =>
      obtain ⟨sound, rfl⟩ := linkEdge_eq_ok linked
      exact h.insertEdge sound
  | removeEdge removed => exact h.removeEdge removed
  | editNode edited => exact h.editNode edited

/-- The pipelines that can come about: those that start empty or are built from a descriptor, and
what any run of accepted operations makes of them. -/
inductive Reachable : Pipeline → Prop
  | new (id : PipelineId) (name : String) : Reachable (.empty id name)
  | loaded {d : Descriptor} {p : Pipeline} (built : ofDescriptor d = .ok p) : Reachable p
  | step {p q : Pipeline} (before : Reachable p) (step : Step p q) : Reachable q

/-- What every step of a fold keeps, the whole fold keeps. -/
theorem foldlM_keeps {α : Type} {f : Pipeline → α → Except Error Pipeline}
    {Holds : Pipeline → Prop} (keeps : ∀ {p q a}, f p a = .ok q → Holds p → Holds q)
    {items : List α} (folded : items.foldlM f p = .ok q) (start : Holds p) : Holds q := by
  induction items generalizing p with
  | nil =>
      cases folded
      exact start
  | cons a rest ih =>
      rw [List.foldlM_cons] at folded
      cases first : f p a with
      | error fault =>
          rw [first] at folded
          cases folded
      | ok next =>
          rw [first] at folded
          exact ih folded (keeps first start)

theorem ofDescriptor_wellFormed {d : Descriptor} (built : ofDescriptor d = .ok p) :
    p.WellFormed := by
  unfold ofDescriptor at built
  cases placed : d.nodes.foldlM Pipeline.addNode (empty d.id d.name) with
  | error fault =>
      rw [placed] at built
      cases built
  | ok middle =>
      rw [placed] at built
      have nodes : middle.WellFormed :=
        foldlM_keeps (fun added h => h.addNode added) placed (empty_wellFormed d.id d.name)
      refine foldlM_keeps (fun linked h => ?_) built nodes
      obtain ⟨sound, rfl⟩ := linkEdge_eq_ok linked
      exact h.insertEdge sound

theorem Reachable.wellFormed (h : p.Reachable) : p.WellFormed := by
  induction h with
  | new id name => exact empty_wellFormed id name
  | loaded built => exact ofDescriptor_wellFormed built
  | step _ step ih => exact step.wellFormed ih

end Etl.Pipeline
