import Etl.Pipeline.Descriptor
import Etl.Proofs.Pipeline.Reachable
import Etl.Proofs.Results

/-!
What can be loaded. A descriptor is accepted exactly when it lists a simple graph, and the pipeline
keeps nothing of the order in which it was listed: its own descriptor is the canonical one.
-/

namespace Etl

open Std Results

/-- A descriptor lists a simple graph: nodes with different identifiers, and different edges, each
between two different nodes of the list. -/
structure Descriptor.Simple (d : Descriptor) : Prop where
  identified : (d.nodes.map (·.id)).Nodup
  ends : ∀ e ∈ d.edges, e.source ∈ d.nodes.map (·.id) ∧ e.target ∈ d.nodes.map (·.id)
  loopless : ∀ e ∈ d.edges, e.source ≠ e.target
  distinct : d.edges.Nodup

theorem Descriptor.Simple.of_perm {d : Descriptor} (h : d.Simple) {nodes : List Node}
    {edges : List Edge} (reordered : nodes.Perm d.nodes) (shuffled : edges.Perm d.edges) :
    Descriptor.Simple { d with nodes, edges } where
  identified := (reordered.map (·.id)).nodup_iff.mpr h.identified
  ends e member := by
    have listed : ∀ {id}, id ∈ nodes.map (·.id) ↔ id ∈ d.nodes.map (·.id) :=
      (reordered.map (·.id)).mem_iff
    simpa only [listed] using h.ends e (shuffled.mem_iff.mp member)
  loopless e member := h.loopless e (shuffled.mem_iff.mp member)
  distinct := shuffled.nodup_iff.mpr h.distinct

/-- Sorting by a key finds the one arrangement in which the keys ascend. -/
theorem eq_mergeSort_of_ascending {α κ : Type} [Ord κ] [TransOrd κ] [LawfulEqOrd κ] (key : α → κ)
    {sorted items : List α} (ascending : sorted.Pairwise fun a b => compare (key a) (key b) = .lt)
    (perm : sorted.Perm items) :
    sorted = items.mergeSort fun a b => (compare (key a) (key b)).isLE := by
  have trans : ∀ a b c : α, (compare (key a) (key b)).isLE → (compare (key b) (key c)).isLE →
      (compare (key a) (key c)).isLE := fun _ _ _ => TransCmp.isLE_trans
  have total : ∀ a b : α, (compare (key a) (key b)).isLE || (compare (key b) (key a)).isLE := by
    intro a b
    have swap : compare (key b) (key a) = (compare (key a) (key b)).swap := OrientedCmp.eq_swap
    rw [swap]
    cases compare (key a) (key b) <;> rfl
  have distinct : (sorted.map key).Nodup := by
    refine List.pairwise_map.mpr (ascending.imp fun less same => ?_)
    simp [same] at less
  have whole := perm.trans
    (List.mergeSort_perm items fun a b => (compare (key a) (key b)).isLE).symm
  refine whole.eq_of_pairwise ?_ (ascending.imp Ordering.isLE_of_eq_lt)
    (List.pairwise_mergeSort trans total items)
  intro a b left right ab ba
  have same : key a = key b := LawfulEqCmp.eq_of_compare (OrientedCmp.isLE_antisymm ab ba)
  exact List.inj_on_of_nodup_map distinct left (whole.mem_iff.mpr right) same

namespace Pipeline

variable {p q : Pipeline} {d : Descriptor}

/-- Nodes that were all added have new and different identifiers. -/
theorem fresh_of_foldlM_addNode {nodes : List Node} (added : nodes.foldlM addNode p = .ok q) :
    (nodes.map (·.id)).Nodup ∧ ∀ node ∈ nodes, p.node? node.id = none := by
  induction nodes generalizing p with
  | nil => exact ⟨.nil, fun node member => nomatch member⟩
  | cons first nodes ih =>
      rw [List.foldlM_cons] at added
      obtain ⟨next, here, rest⟩ := bind_eq_ok.mp added
      obtain ⟨absent, rfl⟩ := addNode_eq_ok here
      obtain ⟨distinct, fresh⟩ := ih rest
      have later : ∀ node ∈ nodes, node.id ≠ first.id ∧ p.node? node.id = none := by
        intro node member
        have missing := fresh node member
        simp only [node?, SortedMap.get?_insert] at missing
        split at missing
        next => cases missing
        next other => exact ⟨other, missing⟩
      refine ⟨List.nodup_cons.mpr ⟨fun member => ?_, distinct⟩, fun node member => ?_⟩
      · obtain ⟨node, listed, same⟩ := List.mem_map.mp member
        exact (later node listed).1 same
      · rcases List.mem_cons.mp member with rfl | member
        · exact SortedMap.not_contains_iff.mp absent
        · exact (later node member).2

theorem wellFormed_of_foldlM_addNode {id : PipelineId} {name : String} {nodes : List Node}
    (added : nodes.foldlM addNode (empty id name) = .ok q) : q.WellFormed :=
  foldlM_keeps (fun added h => h.addNode added) added (empty_wellFormed id name)

/-- Edges that were all linked are new and different, and each joins two nodes of the pipeline. -/
theorem fresh_of_foldlM_linkEdge (h : p.WellFormed) {edges : List Edge}
    (linked : edges.foldlM linkEdge p = .ok q) :
    edges.Nodup ∧ ∀ e ∈ edges, p.containsNode e.source ∧ p.containsNode e.target ∧
      e.source ≠ e.target ∧ p.edges.contains e = false := by
  induction edges generalizing p with
  | nil => exact ⟨.nil, fun e member => nomatch member⟩
  | cons first edges ih =>
      rw [List.foldlM_cons] at linked
      obtain ⟨next, here, rest⟩ := bind_eq_ok.mp linked
      obtain ⟨sound, rfl⟩ := linkEdge_eq_ok here
      obtain ⟨distinct, fresh⟩ := ih (h.insertEdge sound) rest
      obtain ⟨source, target, apart, unlinked⟩ := edgeFault?_eq_none sound
      have absent : p.edges.contains first = false := by
        rw [containsEdge, List.contains_eq_mem, decide_eq_false_iff_not, h.mem_successors_iff]
          at unlinked
        simpa using unlinked
      have later : ∀ e ∈ edges, e ≠ first ∧ p.edges.contains e = false := by
        intro e member
        have missing := (fresh e member).2.2.2
        rw [← Bool.not_eq_true, insertEdge_edges, not_or, Bool.not_eq_true] at missing
        exact missing
      refine ⟨List.nodup_cons.mpr ⟨fun member => (later first member).1 rfl, distinct⟩, ?_⟩
      intro e member
      rcases List.mem_cons.mp member with rfl | member
      · exact ⟨source, target, apart, absent⟩
      · obtain ⟨source, target, apart, _⟩ := fresh e member
        exact ⟨source, target, apart, (later e member).2⟩

/-- Nodes with new and different identifiers are all added. -/
theorem foldlM_addNode {nodes : List Node} (distinct : (nodes.map (·.id)).Nodup)
    (fresh : ∀ node ∈ nodes, p.node? node.id = none) :
    ∃ q, nodes.foldlM addNode p = .ok q ∧ q.id = p.id ∧ q.name = p.name ∧ q.edges = p.edges ∧
      ∀ id node, q.node? id = some node ↔
        p.node? id = some node ∨ (node ∈ nodes ∧ node.id = id) := by
  induction nodes generalizing p with
  | nil => exact ⟨p, rfl, rfl, rfl, rfl, fun id node => by simp⟩
  | cons first nodes ih =>
      obtain ⟨other, distinct⟩ := List.nodup_cons.mp distinct
      have absent := fresh first List.mem_cons_self
      let next : Pipeline :=
        { p with
          nodes := p.nodes.insert first.id first
          outgoing := p.outgoing.insert first.id SortedMap.empty
          incoming := p.incoming.insert first.id SortedMap.empty }
      have added : p.addNode first = .ok next := by
        have missing : ¬ p.containsNode first.id = true := by
          rw [containsNode_iff, absent]
          simp
        rw [addNode, if_neg missing]
      have look : ∀ id, next.node? id = if id = first.id then some first else p.node? id :=
        fun id => SortedMap.get?_insert ..
      have later : ∀ node ∈ nodes, next.node? node.id = none := by
        intro node member
        have differ : node.id ≠ first.id := fun same =>
          other (List.mem_map.mpr ⟨node, member, same⟩)
        rw [look, if_neg differ]
        exact fresh node (List.mem_cons_of_mem _ member)
      obtain ⟨q, built, id, name, edges, found⟩ := ih distinct later
      refine ⟨q, ?_, id, name, edges, fun key node => ?_⟩
      · rw [List.foldlM_cons, added]
        exact built
      · rw [found, look, List.mem_cons]
        by_cases same : key = first.id
        · subst same
          simp only [if_pos, absent, Option.some.injEq, reduceCtorEq, false_or]
          constructor
          · rintro (rfl | ⟨member, key⟩)
            · exact ⟨.inl rfl, rfl⟩
            · exact ⟨.inr member, key⟩
          · rintro ⟨rfl | member, key⟩
            · exact .inl rfl
            · exact .inr ⟨member, key⟩
        · rw [if_neg same]
          refine or_congr_right (and_congr_left fun key => ?_)
          have differ : node ≠ first := by
            rintro rfl
            exact same key.symm
          simp [differ]

/-- New and different edges between the nodes of a pipeline are all linked. -/
theorem foldlM_linkEdge (h : p.WellFormed) {edges : List Edge} (distinct : edges.Nodup)
    (ends : ∀ e ∈ edges, p.containsNode e.source ∧ p.containsNode e.target)
    (loopless : ∀ e ∈ edges, e.source ≠ e.target)
    (fresh : ∀ e ∈ edges, p.edges.contains e = false) :
    ∃ q, edges.foldlM linkEdge p = .ok q ∧ q.id = p.id ∧ q.name = p.name ∧ q.nodes = p.nodes ∧
      ∀ e, q.edges.contains e ↔ p.edges.contains e ∨ e ∈ edges := by
  induction edges generalizing p with
  | nil => exact ⟨p, rfl, rfl, rfl, rfl, fun e => by simp⟩
  | cons first edges ih =>
      obtain ⟨other, distinct⟩ := List.nodup_cons.mp distinct
      obtain ⟨source, target⟩ := ends first List.mem_cons_self
      have sound := edgeFault?_of_new h source target (loopless first List.mem_cons_self)
        (fresh first List.mem_cons_self)
      have linked : p.linkEdge first = .ok (p.insertEdge first) := by
        rw [linkEdge, sound]
      have later : ∀ e ∈ edges, (p.insertEdge first).edges.contains e = false := by
        intro e member
        have differ : e ≠ first := by
          rintro rfl
          exact other member
        have absent := fresh e (List.mem_cons_of_mem _ member)
        rw [← Bool.not_eq_true, insertEdge_edges]
        simp [differ, absent]
      obtain ⟨q, built, id, name, nodes, found⟩ := ih (h.insertEdge sound) distinct
        (fun e member => ends e (List.mem_cons_of_mem _ member))
        (fun e member => loopless e (List.mem_cons_of_mem _ member)) later
      refine ⟨q, ?_, id, name, nodes, fun e => ?_⟩
      · rw [List.foldlM_cons, linked]
        exact built
      · rw [found, insertEdge_edges, List.mem_cons, or_assoc, or_left_comm]

/-- A descriptor names all nodes and edges of a pipeline, and nothing else. -/
structure ListedBy (p : Pipeline) (d : Descriptor) : Prop where
  id : p.id = d.id
  name : p.name = d.name
  nodes : ∀ id node, p.node? id = some node ↔ node ∈ d.nodes ∧ node.id = id
  edges : ∀ e, p.edges.contains e ↔ e ∈ d.edges

theorem WellFormed.listedBy_toDescriptor (h : p.WellFormed) : p.ListedBy p.toDescriptor where
  id := rfl
  name := rfl
  nodes _ _ := h.mem_nodeList_and_id_iff.symm
  edges _ := mem_edgeList.symm

theorem WellFormed.simple_toDescriptor (h : p.WellFormed) : p.toDescriptor.Simple where
  identified := by
    rw [toDescriptor, h.map_id_nodeList]
    exact p.nodes.keys_nodup
  ends e member := by
    rw [toDescriptor, h.map_id_nodeList, SortedMap.mem_keys, SortedMap.mem_keys]
    exact h.ends (mem_edgeList.mp member)
  loopless e member := h.loopless (mem_edgeList.mp member)
  distinct := SortedSet.toList_nodup p.edges

namespace ListedBy

theorem of_perm (h : p.ListedBy d) {nodes : List Node} {edges : List Edge}
    (reordered : nodes.Perm d.nodes) (shuffled : edges.Perm d.edges) :
    p.ListedBy { d with nodes, edges } where
  id := h.id
  name := h.name
  nodes id node := (h.nodes id node).trans (and_congr_left fun _ => reordered.mem_iff.symm)
  edges e := (h.edges e).trans shuffled.mem_iff.symm

/-- The lists leave no choice. -/
theorem eq (hp : p.ListedBy d) (hq : q.ListedBy d) (p_wf : p.WellFormed) (q_wf : q.WellFormed) :
    p = q := by
  refine p_wf.ext q_wf (hp.id.trans hq.id.symm) (hp.name.trans hq.name.symm) ?_ ?_
  · refine SortedMap.ext_get? fun id => Option.ext fun node => ?_
    exact (hp.nodes id node).trans (hq.nodes id node).symm
  · refine SortedSet.ext_contains fun e => Bool.eq_iff_iff.mpr ?_
    exact (hp.edges e).trans (hq.edges e).symm

/-- Nodes and edges come out of the pipeline in the order of the canonical descriptor. -/
theorem toDescriptor_eq (h : p.ListedBy d) (wf : p.WellFormed) (simple : d.Simple) :
    p.toDescriptor = d.canonical := by
  have nodes : p.nodeList = d.canonical.nodes := by
    refine eq_mergeSort_of_ascending Node.id ?_ ?_
    · have keys := p.nodes.keys_pairwise
      rw [← wf.map_id_nodeList] at keys
      exact List.pairwise_map.mp keys
    · refine (List.perm_ext_iff_of_nodup wf.simple_toDescriptor.identified.of_map
        simple.identified.of_map).mpr fun node => ?_
      exact wf.mem_nodeList_iff.trans ((h.nodes node.id node).trans (and_iff_left rfl))
  have edges : p.edgeList = d.canonical.edges := by
    refine eq_mergeSort_of_ascending (fun e => e) p.edges.keys_pairwise ?_
    refine (List.perm_ext_iff_of_nodup (SortedSet.toList_nodup _) simple.distinct).mpr fun e => ?_
    exact mem_edgeList.trans (h.edges e)
  rw [toDescriptor, nodes, edges, h.id, h.name]
  rfl

end ListedBy

theorem exists_ofDescriptor (simple : d.Simple) :
    ∃ p, ofDescriptor d = .ok p ∧ p.ListedBy d := by
  have unused : ∀ node ∈ d.nodes, (empty d.id d.name).node? node.id = none := fun _ _ => rfl
  obtain ⟨middle, placed, id, name, edges, found⟩ := foldlM_addNode simple.identified unused
  have wf := wellFormed_of_foldlM_addNode placed
  have listed : ∀ id node, middle.node? id = some node ↔ node ∈ d.nodes ∧ node.id = id :=
    fun id node => (found id node).trans (or_iff_right (by simp [empty, node?]))
  have present : ∀ {id}, id ∈ d.nodes.map (·.id) → middle.containsNode id := by
    intro id member
    obtain ⟨node, inside, rfl⟩ := List.mem_map.mp member
    exact containsNode_iff.mpr ⟨node, (listed node.id node).mpr ⟨inside, rfl⟩⟩
  have unlinked : ∀ e, middle.edges.contains e = false := fun e => by
    rw [edges]
    rfl
  obtain ⟨p, linked, id', name', nodes', found'⟩ := foldlM_linkEdge wf simple.distinct
    (fun e member => ⟨present (simple.ends e member).1, present (simple.ends e member).2⟩)
    simple.loopless fun e _ => unlinked e
  refine ⟨p, bind_eq_ok.mpr ⟨middle, placed, linked⟩, id'.trans id, name'.trans name, ?_, ?_⟩
  · intro id node
    rw [node?, nodes']
    exact listed id node
  · intro e
    rw [found', unlinked]
    simp

theorem simple_of_ofDescriptor (built : ofDescriptor d = .ok p) : d.Simple := by
  obtain ⟨middle, placed, linked⟩ := bind_eq_ok.mp built
  obtain ⟨identified, fresh⟩ := fresh_of_foldlM_addNode placed
  obtain ⟨q, same, _, _, _, found⟩ := foldlM_addNode identified fresh
  cases placed.symm.trans same
  have wf := wellFormed_of_foldlM_addNode placed
  have present : ∀ {id}, middle.containsNode id → id ∈ d.nodes.map (·.id) := by
    intro id contained
    obtain ⟨node, visited⟩ := containsNode_iff.mp contained
    rcases (found id node).mp visited with old | ⟨member, rfl⟩
    · cases old
    · exact List.mem_map.mpr ⟨node, member, rfl⟩
  obtain ⟨distinct, joined⟩ := fresh_of_foldlM_linkEdge wf linked
  exact
    { identified, distinct
      ends := fun e member => ⟨present (joined e member).1, present (joined e member).2.1⟩
      loopless := fun e member => (joined e member).2.2.1 }

theorem listedBy_of_ofDescriptor (built : ofDescriptor d = .ok p) : p.ListedBy d := by
  obtain ⟨q, same, listed⟩ := exists_ofDescriptor (simple_of_ofDescriptor built)
  cases built.symm.trans same
  exact listed

theorem ofDescriptor_eq_ok (simple : d.Simple) (h : p.ListedBy d) (wf : p.WellFormed) :
    ofDescriptor d = .ok p := by
  obtain ⟨q, built, listed⟩ := exists_ofDescriptor simple
  rw [built, listed.eq h (ofDescriptor_wellFormed built) wf]

/-- A pipeline is rebuilt from its descriptor, with both indexes. -/
theorem ofDescriptor_toDescriptor (h : p.WellFormed) : ofDescriptor p.toDescriptor = .ok p :=
  ofDescriptor_eq_ok h.simple_toDescriptor h.listedBy_toDescriptor h

/-- Exactly the simple graphs can be loaded. A loaded pipeline has the canonical descriptor of what
was loaded, the same lists in any other order give the same pipeline, and each pipeline that can come
about is what its own descriptor gives. -/
theorem exists_ofDescriptor_iff_simple :
    (∀ d : Descriptor, (∃ p, ofDescriptor d = .ok p) ↔ d.Simple) ∧
      (∀ d p, ofDescriptor d = .ok p → p.toDescriptor = d.canonical ∧
        ∀ nodes edges, nodes.Perm d.nodes → edges.Perm d.edges →
          ofDescriptor { d with nodes, edges } = .ok p) ∧
      ∀ p : Pipeline, p.Reachable → ofDescriptor p.toDescriptor = .ok p := by
  refine ⟨fun d => ⟨?_, ?_⟩, fun d p built => ⟨?_, ?_⟩, fun p h => ?_⟩
  · rintro ⟨p, built⟩
    exact simple_of_ofDescriptor built
  · intro simple
    obtain ⟨p, built, _⟩ := exists_ofDescriptor simple
    exact ⟨p, built⟩
  · exact (listedBy_of_ofDescriptor built).toDescriptor_eq (ofDescriptor_wellFormed built)
      (simple_of_ofDescriptor built)
  · intro nodes edges reordered shuffled
    exact ofDescriptor_eq_ok ((simple_of_ofDescriptor built).of_perm reordered shuffled)
      ((listedBy_of_ofDescriptor built).of_perm reordered shuffled) (ofDescriptor_wellFormed built)
  · exact ofDescriptor_toDescriptor h.wellFormed

/-- Two nodes that read each other, listed against the order of their identifiers. -/
def scrambled : Descriptor where
  id := "p"
  name := ""
  nodes := [⟨"b", "transform-sql", "", .empty⟩, ⟨"a", "transform-filter", "", .empty⟩]
  edges := [⟨"b", "a"⟩, ⟨"a", "b"⟩]

theorem exists_ofDescriptor_iff_simple_scrambled :
    scrambled.Simple ∧ ∃ p, ofDescriptor scrambled = .ok p ∧
      p.toDescriptor = scrambled.canonical ∧ ofDescriptor scrambled.canonical = .ok p ∧
      p.Reachable ∧ ofDescriptor p.toDescriptor = .ok p := by
  obtain ⟨accepted, loaded, rebuilt⟩ := exists_ofDescriptor_iff_simple
  obtain ⟨p, built⟩ : ∃ p, ofDescriptor scrambled = .ok p := ⟨_, rfl⟩
  have h : p.Reachable := .loaded built
  obtain ⟨canonical, reordered⟩ := loaded scrambled p built
  exact ⟨(accepted scrambled).mp ⟨p, built⟩, p, built, canonical,
    reordered _ _ (List.mergeSort_perm ..) (List.mergeSort_perm ..), h, rebuilt p h⟩

end Pipeline

end Etl
