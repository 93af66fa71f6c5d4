import Etl.Compiler
import Etl.Proofs.Pipeline.Cycle
import Etl.Proofs.Pipeline.History
import Etl.Proofs.Pipeline.Loading

/-!
Graphs put together edge by edge. Every part of a graph without cycles is without cycles, so adding
its edges one after the other, each with the check for a cycle, refuses none of them, whatever their
order. What comes out is the pipeline that loading the same lists gives.
-/

namespace Etl.Pipeline

open Results

variable {p q : Pipeline}

theorem Acyclic.of_joined (h : q.Acyclic) (kept : ∀ a b, p.Joined a b → q.Joined a b) :
    p.Acyclic := fun c cycle => h c (cycle.mono kept)

theorem joined_of_foldlM_linkEdge {edges : List Edge} (linked : edges.foldlM linkEdge p = .ok q)
    {a b : NodeId} (edge : p.Joined a b) : q.Joined a b :=
  @foldlM_keeps p q Edge linkEdge (fun p => p.Joined a b)
    (fun linked edge => by
      obtain ⟨_, rfl⟩ := linkEdge_eq_ok linked
      exact (insertEdge_edges _ _).mpr (.inr edge))
    edges linked edge

/-- On the way to a graph without cycles, the check for a cycle never stops an edge. -/
theorem foldlM_addEdge_of_acyclic (h : p.WellFormed) {edges : List Edge}
    (linked : edges.foldlM linkEdge p = .ok q) (acyclic : q.Acyclic) :
    edges.foldlM addEdge p = .ok q := by
  induction edges generalizing p with
  | nil => exact linked
  | cons e edges ih =>
      rw [List.foldlM_cons] at linked ⊢
      obtain ⟨next, here, rest⟩ := bind_eq_ok.mp linked
      obtain ⟨sound, rfl⟩ := linkEdge_eq_ok here
      have part : (p.insertEdge e).Acyclic :=
        acyclic.of_joined fun _ _ => joined_of_foldlM_linkEdge rest
      have open_ : ¬ p.Closes e := by
        rintro ⟨c, cycle, _⟩
        rw [← joined_insertEdge] at cycle
        exact part c cycle
      rw [(addEdge_eq h sound).2 open_]
      exact ih (h.insertEdge sound) rest

namespace Operation

/-- Operations of which none is refused, in place. -/
theorem run_forM_change (h : p.WellFormed) {ops : List Operation}
    (performed : ops.foldlM perform p = .ok q) : (ops.forM change).run p = .ok () q := by
  induction ops generalizing p with
  | nil =>
      cases performed
      rfl
  | cons op ops ih =>
      rw [List.foldlM_cons] at performed
      obtain ⟨next, here, rest⟩ := bind_eq_ok.mp performed
      have first := (run_change_eq_ok h).mpr here
      show (op.change >>= fun _ => ops.forM change).run p = .ok () q
      rw [EStateM.run_bind, first]
      exact ih ((Step.of_perform here).wellFormed h) rest

/-- Puts a graph together: all nodes, and then all edges with the check for a cycle. -/
def assemble (nodes : List Node) (edges : List Edge) : List Operation :=
  nodes.map addNode ++ edges.map addEdge

theorem foldlM_perform_assemble (nodes : List Node) (edges : List Edge) :
    (assemble nodes edges).foldlM perform p =
      nodes.foldlM Pipeline.addNode p >>= edges.foldlM Pipeline.addEdge := by
  rw [assemble, List.foldlM_append, List.foldlM_map]
  simp only [List.foldlM_map]
  rfl

end Operation

/-- The nodes and edges of an acyclic graph can be added to an empty pipeline in any order, the edges
with the check for a cycle: nothing is refused, and the outcome is the pipeline that loading gives.
So it has the same order, report and texts. -/
theorem run_assemble_eq_loaded {d : Descriptor} (built : ofDescriptor d = .ok p)
    (acyclic : p.Acyclic) {nodes : List Node} {edges : List Edge}
    (reordered : nodes.Perm d.nodes) (shuffled : edges.Perm d.edges) :
    ∃ q, ((Operation.assemble nodes edges).forM Operation.change).run (empty d.id d.name) =
        .ok () q ∧
      q = p ∧ (∃ ids, q.order = .ok ids ∧ p.order = .ok ids) ∧
        ∀ c : Compiler,
          c.validator.validate q c.catalog = c.validator.validate p c.catalog ∧
            ∀ kind, c.generate q kind = c.generate p kind := by
  have listed : ofDescriptor { d with nodes, edges } = .ok p :=
    ofDescriptor_eq_ok ((simple_of_ofDescriptor built).of_perm reordered shuffled)
      ((listedBy_of_ofDescriptor built).of_perm reordered shuffled) (ofDescriptor_wellFormed built)
  obtain ⟨middle, placed, linked⟩ := bind_eq_ok.mp listed
  have wf := wellFormed_of_foldlM_addNode placed
  have performed : (Operation.assemble nodes edges).foldlM Operation.perform (empty d.id d.name) =
      .ok p := by
    rw [Operation.foldlM_perform_assemble]
    exact bind_eq_ok.mpr ⟨middle, placed, foldlM_addEdge_of_acyclic wf linked acyclic⟩
  obtain ⟨ids, ordered⟩ := exists_order_of_acyclic (ofDescriptor_wellFormed built) acyclic
  exact ⟨p, Operation.run_forM_change (empty_wellFormed d.id d.name) performed, rfl,
    ⟨ids, ordered, ordered⟩, fun c => ⟨rfl, fun kind => rfl⟩⟩

/-- A source that feeds two filters and a target that reads them both. -/
def diamond : Descriptor where
  id := "p"
  name := "two ways"
  nodes :=
    [⟨"a", "source-pg", "", .empty⟩, ⟨"b", "transform-filter", "", .empty⟩,
     ⟨"c", "transform-filter", "", .empty⟩, ⟨"d", "target-pg", "", .empty⟩]
  edges := [⟨"a", "b"⟩, ⟨"a", "c"⟩, ⟨"b", "d"⟩, ⟨"c", "d"⟩]

theorem run_assemble_eq_loaded_diamond :
    ∃ p, ofDescriptor diamond = .ok p ∧ p.Acyclic ∧
      ((Operation.assemble diamond.nodes.reverse diamond.edges.reverse).forM Operation.change).run
        (empty "p" "two ways") = .ok () p := by
  obtain ⟨p, built⟩ : ∃ p, ofDescriptor diamond = .ok p := ⟨_, rfl⟩
  obtain ⟨ids, ordered⟩ : ∃ ids, p.order.toOption = some ids := by
    apply Option.isSome_iff_exists.mp
    cases built
    decide +kernel
  have acyclic : p.Acyclic :=
    acyclic_of_order_eq_ok (ofDescriptor_wellFormed built) (toOption_eq_some.mp ordered)
  obtain ⟨q, ended, rfl, _⟩ := run_assemble_eq_loaded built acyclic
    (List.reverse_perm diamond.nodes) (List.reverse_perm diamond.edges)
  exact ⟨q, built, acyclic, ended⟩

end Etl.Pipeline
