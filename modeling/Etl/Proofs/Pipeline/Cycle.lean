import Mathlib.Data.List.Chain
import Mathlib.Data.List.Cycle
import Etl.Proofs.Pipeline.Order
import Etl.Proofs.Pipeline.Reach
import Etl.Proofs.Pipeline.Reachable

/-!
Cycles and new edges. An edge closes a cycle exactly when its target already reaches its source, and
a cycle that does not go over the new edge was there before. Neither needs the graph to be free of
cycles.
-/

namespace Etl

open Relation

/-- A directed cycle: different nodes, each joined to the next and the last to the first. -/
structure IsCycle (joined : NodeId → NodeId → Prop) (c : Cycle NodeId) : Prop where
  nonempty : c ≠ .nil
  distinct : c.Nodup
  closed : c.Chain joined

/-- Whether a cycle goes over an edge. -/
def GoesOver (c : Cycle NodeId) (e : Edge) : Prop :=
  ∃ rest : List NodeId, c = (e.source :: e.target :: rest : List NodeId)

/-- The graph with one more edge. -/
def WithEdge (joined : NodeId → NodeId → Prop) (e : Edge) (a b : NodeId) : Prop :=
  joined a b ∨ ⟨a, b⟩ = e

variable {joined : NodeId → NodeId → Prop} {a b : NodeId} {e : Edge} {c : Cycle NodeId}

theorem IsCycle.mono {more : NodeId → NodeId → Prop} (h : IsCycle joined c)
    (kept : ∀ a b, joined a b → more a b) : IsCycle more c :=
  ⟨h.nonempty, h.distinct, h.closed.imp kept⟩

theorem IsCycle.exists_joined (h : IsCycle joined c) : ∃ a b, joined a b := by
  induction c using Quotient.inductionOn with
  | _ nodes =>
    match nodes with
    | [] => exact absurd rfl h.nonempty
    | [a] => exact ⟨a, a, List.isChain_pair.mp ((Cycle.chain_coe_cons ..).mp h.closed)⟩
    | a :: b :: rest =>
        have closed := (Cycle.chain_coe_cons ..).mp h.closed
        exact ⟨a, b, (List.isChain_cons_cons.mp closed).1⟩

/-- A path can be cut short wherever it comes back to a node. -/
theorem exists_simple_path (path : ReflTransGen joined a b) (apart : a ≠ b) :
    ∃ mid : List NodeId, (a :: mid ++ [b]).IsChain joined ∧ (a :: mid ++ [b]).Nodup := by
  induction path using ReflTransGen.head_induction_on with
  | refl => exact absurd rfl apart
  | @head a c first rest ih =>
      -- The path from `c` on is simple already; only a return to `a` is left to cut out.
      by_cases arrived : c = b
      · subst arrived
        exact ⟨[], by simpa using first, by simpa using apart⟩
      · obtain ⟨mid, chain, distinct⟩ := ih arrived
        by_cases back : a ∈ c :: mid
        · obtain ⟨front, tail, split⟩ := List.append_of_mem back
          rw [split, List.append_assoc] at chain distinct
          exact ⟨tail, chain.right_of_append, distinct.of_append_right⟩
        · refine ⟨c :: mid, chain.cons_cons first, List.nodup_cons.mpr ⟨?_, distinct⟩⟩
          simpa [apart] using back

/-- A chain that never leaves the source of the new edge has no use for the edge. -/
theorem isChain_of_avoids {nodes : List NodeId} {last : NodeId} (avoids : e.source ∉ nodes)
    (chain : (nodes ++ [last]).IsChain (WithEdge joined e)) : (nodes ++ [last]).IsChain joined := by
  have old : ∀ {x y}, x ∈ nodes → WithEdge joined e x y → joined x y := by
    rintro x y member (edge | rfl)
    · exact edge
    · exact absurd member avoids
  rw [List.isChain_iff_forall_rel_of_append_cons_cons] at chain ⊢
  intro x y front back split
  -- A link never starts at the last node of the chain.
  have member : x ∈ nodes := by
    have inner := congrArg List.dropLast split
    rw [List.dropLast_concat] at inner
    rw [inner, List.dropLast_append_cons]
    simp
  exact old member (chain split)

/-- A cycle can be read from any of its nodes on. -/
theorem exists_eq_coe_cons (member : a ∈ c) : ∃ rest : List NodeId, c = (a :: rest : List NodeId) := by
  induction c using Quotient.inductionOn with
  | _ nodes =>
    obtain ⟨front, back, rfl⟩ := List.append_of_mem (Cycle.mem_coe_iff.mp member)
    exact ⟨back ++ front, Cycle.coe_eq_coe.mpr List.isRotated_append⟩

/-- From a node on a cycle a walk leads round the cycle and back. -/
theorem IsCycle.transGen (h : IsCycle joined c) (member : a ∈ c) : TransGen joined a a := by
  obtain ⟨rest, rfl⟩ := exists_eq_coe_cons member
  have chain := (Cycle.chain_coe_cons ..).mp h.closed
  have later := (chain.imp fun _ _ => TransGen.single).pairwise
  exact (List.pairwise_cons.mp later).1 a (by simp)

theorem IsCycle.exists_mem (h : IsCycle joined c) : ∃ a, a ∈ c := by
  induction c using Quotient.inductionOn with
  | _ nodes =>
    cases nodes with
    | nil => exact absurd rfl h.nonempty
    | cons first rest => exact ⟨first, Cycle.mem_coe_iff.mpr List.mem_cons_self⟩

/-- A new edge closes a cycle exactly when its target already reached its source. -/
theorem exists_cycle_over_iff (apart : e.source ≠ e.target) :
    (∃ c, IsCycle (WithEdge joined e) c ∧ GoesOver c e) ↔
      ReflTransGen joined e.target e.source := by
  constructor
  · rintro ⟨_, cycle, rest, rfl⟩
    have closed := cycle.closed
    rw [Cycle.chain_coe_cons, List.cons_append, List.isChain_cons_cons] at closed
    have avoids : e.source ∉ e.target :: rest :=
      (List.nodup_cons.mp (Cycle.nodup_coe_iff.mp cycle.distinct)).1
    have old := isChain_of_avoids avoids closed.2
    exact List.relationReflTransGen_of_exists_isChain_cons (rest ++ [e.source]) old (by simp)
  · intro path
    obtain ⟨mid, chain, distinct⟩ := exists_simple_path path apart.symm
    refine ⟨(e.source :: e.target :: mid : List NodeId), ⟨?_, ?_, ?_⟩, mid, rfl⟩
    · exact (Cycle.coe_eq_nil _).not.mpr (List.cons_ne_nil _ _)
    · have swap : (e.target :: mid ++ [e.source]).Perm (e.source :: e.target :: mid) :=
        List.perm_append_singleton ..
      exact Cycle.nodup_coe_iff.mpr (swap.nodup_iff.mp distinct)
    · rw [Cycle.chain_coe_cons, List.cons_append, List.isChain_cons_cons]
      exact ⟨.inr rfl, chain.imp fun _ _ edge => .inl edge⟩

/-- A node lies on a cycle exactly when a walk leads from it back to it. -/
theorem exists_cycle_through_iff (loopless : ∀ x, ¬ joined x x) :
    (∃ c, IsCycle joined c ∧ a ∈ c) ↔ TransGen joined a a := by
  constructor
  · rintro ⟨c, cycle, member⟩
    exact cycle.transGen member
  · intro back
    obtain ⟨b, edge, path⟩ := TransGen.head'_iff.mp back
    have apart : a ≠ b := by
      rintro rfl
      exact loopless a edge
    obtain ⟨_, cycle, rest, rfl⟩ := (exists_cycle_over_iff (e := ⟨a, b⟩) apart).mpr path
    -- The first edge of the walk is there already, so it is no new edge.
    refine ⟨_, ⟨cycle.nonempty, cycle.distinct, cycle.closed.imp ?_⟩, by simp⟩
    rintro x y (old | same)
    · exact old
    · obtain ⟨rfl, rfl⟩ := Edge.mk_eq_iff.mp same
      exact edge

/-- A cycle that does not go over the new edge was there before. -/
theorem IsCycle.of_withEdge (h : IsCycle (WithEdge joined e) c) (aside : ¬ GoesOver c e)
    (apart : e.source ≠ e.target) : IsCycle joined c := by
  refine ⟨h.nonempty, h.distinct, ?_⟩
  -- Read from the source of the edge on, only the first link can be the new edge.
  by_cases member : e.source ∈ c
  · obtain ⟨rest, rfl⟩ := exists_eq_coe_cons member
    have closed := h.closed
    have avoids := (List.nodup_cons.mp (Cycle.nodup_coe_iff.mp h.distinct)).1
    rw [Cycle.chain_coe_cons] at closed ⊢
    cases rest with
    | nil =>
        rcases List.isChain_pair.mp closed with edge | same
        · exact List.isChain_pair.mpr edge
        · exact absurd (congrArg Edge.target same) apart
    | cons next rest =>
        rw [List.cons_append, List.isChain_cons_cons] at closed ⊢
        refine ⟨?_, isChain_of_avoids avoids closed.2⟩
        rcases closed.1 with edge | same
        · exact edge
        · have second : next = e.target := congrArg Edge.target same
          exact absurd ⟨rest, by rw [second]⟩ aside
  · induction c using Quotient.inductionOn with
    | _ nodes =>
      cases nodes with
      | nil => exact absurd rfl h.nonempty
      | cons first rest =>
          have closed := (Cycle.chain_coe_cons ..).mp h.closed
          have avoids : e.source ∉ first :: rest := mt Cycle.mem_coe_iff.mpr member
          exact (Cycle.chain_coe_cons ..).mpr (isChain_of_avoids avoids closed)

namespace Pipeline

variable {p q : Pipeline}

/-- Whether an edge leads from one node to another. -/
def Joined (p : Pipeline) (a b : NodeId) : Prop := p.edges.contains ⟨a, b⟩

/-- Whether a pipeline would have a cycle over a new edge. -/
def Closes (p : Pipeline) (e : Edge) : Prop := ∃ c, IsCycle (WithEdge p.Joined e) c ∧ GoesOver c e

def Acyclic (p : Pipeline) : Prop := ∀ c, ¬ IsCycle p.Joined c

/-- Whether a node lies on some cycle. -/
def OnCycle (p : Pipeline) (a : NodeId) : Prop := ∃ c, IsCycle p.Joined c ∧ a ∈ c

theorem empty_acyclic (id : PipelineId) (name : String) : (empty id name).Acyclic := by
  intro c cycle
  obtain ⟨a, b, edge⟩ := cycle.exists_joined
  cases edge

theorem joined_insertEdge (e : Edge) : (p.insertEdge e).Joined = WithEdge p.Joined e := by
  funext a b
  exact propext ((insertEdge_edges e ⟨a, b⟩).trans or_comm)

theorem follows_eq_joined (h : p.WellFormed) : p.Follows = p.Joined := by
  funext a b
  exact propext h.mem_successors_iff

theorem canReach_iff_closes (h : p.WellFormed) {e : Edge} (apart : e.source ≠ e.target) :
    p.canReach e.target e.source ↔ p.Closes e := by
  rw [canReach_iff h, follows_eq_joined h, Closes, exists_cycle_over_iff apart]

/-- A walk that comes back to where it began goes round a cycle. -/
theorem onCycle_iff (h : p.WellFormed) {a : NodeId} : p.OnCycle a ↔ TransGen p.Follows a a := by
  rw [OnCycle, follows_eq_joined h]
  exact exists_cycle_through_iff fun x edge => h.loopless edge rfl

theorem not_transGen_of_acyclic (h : p.WellFormed) (acyclic : p.Acyclic) {a : NodeId} :
    ¬ TransGen p.Joined a a := by
  rw [← follows_eq_joined h, ← onCycle_iff h]
  rintro ⟨c, cycle, -⟩
  exact acyclic c cycle

/-- Where the nodes can be ordered, there is no cycle. -/
theorem acyclic_of_order_eq_ok (h : p.WellFormed) {ids : List NodeId}
    (ordered : p.order = .ok ids) : p.Acyclic := by
  intro c cycle
  obtain ⟨a, member⟩ := cycle.exists_mem
  have back := (onCycle_iff h).mp ⟨c, cycle, member⟩
  exact (follows_wellFounded h ordered).transGen.irrefl.irrefl a back

theorem exists_order_of_acyclic (h : p.WellFormed) (acyclic : p.Acyclic) :
    ∃ ids, p.order = .ok ids := by
  cases ordered : p.order with
  | ok ids => exact ⟨ids, rfl⟩
  | error fault =>
      obtain ⟨id, back⟩ := exists_cycle_of_order_eq_error h ordered
      rw [follows_eq_joined h] at back
      exact absurd back (not_transGen_of_acyclic h acyclic)

/-- The edge is refused for a cycle that it would close, and for nothing else. -/
theorem addEdge_eq (h : p.WellFormed) {e : Edge} (sound : p.edgeFault? e = none) :
    (p.Closes e → p.addEdge e = .error (.cycleWouldForm e)) ∧
      (¬ p.Closes e → p.addEdge e = .ok (p.insertEdge e)) := by
  obtain ⟨_, _, apart, _⟩ := edgeFault?_eq_none sound
  rw [← canReach_iff_closes h apart, addEdge, sound]
  exact ⟨fun back => if_pos back, fun back => if_neg back⟩

/-- Every cycle after an edge was added was there before. -/
theorem isCycle_of_addEdge (h : p.WellFormed) {e : Edge} (added : p.addEdge e = .ok q)
    {c : Cycle NodeId} (cycle : IsCycle q.Joined c) : IsCycle p.Joined c := by
  obtain ⟨sound, apart, rfl⟩ := addEdge_eq_ok added
  obtain ⟨_, _, differ, _⟩ := edgeFault?_eq_none sound
  rw [joined_insertEdge] at cycle
  have harmless : ¬ p.Closes e := fun closes => by
    rw [(canReach_iff_closes h differ).mpr closes] at apart
    cases apart
  exact cycle.of_withEdge (fun passes => harmless ⟨c, cycle, passes⟩) differ

end Pipeline

end Etl
