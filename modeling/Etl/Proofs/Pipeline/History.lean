import Etl.Proofs.Pipeline.Change
import Etl.Proofs.Results

/-!
Histories of pipelines. Whatever is asked of a pipeline, accepted or refused, its four collections
go on describing one simple graph. The indexes hold nothing of their own, so two histories that end
with the same nodes and edges end with the same pipeline.
-/

namespace Etl.Pipeline

open Results

variable {p q : Pipeline}

/-- The pipelines that histories start from. -/
inductive Initial : Pipeline → Prop
  | new (id : PipelineId) (name : String) : Initial (.empty id name)
  | loaded {d : Descriptor} {p : Pipeline} (built : ofDescriptor d = .ok p) : Initial p

theorem Initial.reachable (h : p.Initial) : p.Reachable := by
  cases h with
  | new id name => exact .new id name
  | loaded built => exact .loaded built

theorem Step.of_perform {op : Operation} (performed : op.perform p = .ok q) : Step p q := by
  cases op with
  | setName name =>
      cases performed
      exact .setName p name
  | addNode node => exact .addNode performed
  | removeNode id =>
      obtain ⟨⟨node, q⟩, removed, rfl⟩ := map_eq_ok.mp performed
      exact .removeNode removed
  | addEdge e => exact .addEdge performed
  | linkEdge e => exact .linkEdge performed
  | removeEdge e => exact .removeEdge performed
  | configure id config => exact .editNode performed
  | reconfigure id changes => exact .editNode performed
  | relabel id label => exact .editNode performed

namespace Operation

variable {op : Operation}

theorem run_change_eq_ok (h : p.WellFormed) :
    op.change.run p = .ok () q ↔ op.perform p = .ok q := by
  rw [run_change h, Work.settle_eq_ok, map_eq_ok]
  simp

theorem run_change_eq_error (h : p.WellFormed) {fault : Error} :
    op.change.run p = .error fault q ↔ op.perform p = .error fault ∧ q = p := by
  rw [run_change h, Work.settle_eq_error]
  cases op.perform p <;> simp [Except.map]

theorem after_of_perform (h : p.WellFormed) (performed : op.perform p = .ok q) :
    op.change.after p = q :=
  Work.after_of_ok ((run_change_eq_ok h).mpr performed)

theorem after_of_refused (h : p.WellFormed) {fault : Error} (refused : op.perform p = .error fault) :
    op.change.after p = p :=
  Work.after_of_error ((run_change_eq_error h).mpr ⟨refused, rfl⟩)

theorem after_reachable (h : p.Reachable) (op : Operation) : (op.change.after p).Reachable := by
  cases performed : op.perform p with
  | ok q =>
      rw [after_of_perform h.wellFormed performed]
      exact .step h (.of_perform performed)
  | error fault =>
      rw [after_of_refused h.wellFormed performed]
      exact h

theorem run_reachable (h : p.Reachable) (ops : List Operation) : (run p ops).Reachable := by
  induction ops generalizing p with
  | nil => exact h
  | cons op rest ih => exact ih (after_reachable h op)

end Operation

theorem run_removeNode_eq_ok (h : p.WellFormed) {id : NodeId} {node : Node}
    (removed : (Change.removeNode id).run p = .ok node q) :
    p.node? id = some node ∧ q.nodes = p.nodes.erase id ∧
      ∀ e, q.edges.contains e ↔ e.source ≠ id ∧ e.target ≠ id ∧ p.edges.contains e := by
  rw [Change.run_removeNode h, Work.settle_eq_ok] at removed
  obtain ⟨found, rfl⟩ := removeNode_eq_ok removed
  exact ⟨found, rfl, fun e => contains_apart⟩

theorem exists_run_removeNode_iff (h : p.WellFormed) {id : NodeId} :
    (∃ node q, (Change.removeNode id).run p = .ok node q) ↔ p.containsNode id := by
  rw [containsNode_iff]
  constructor
  · rintro ⟨node, q, removed⟩
    exact ⟨node, (run_removeNode_eq_ok h removed).1⟩
  · rintro ⟨node, found⟩
    rw [Change.run_removeNode h, removeNode, requireNode_eq_ok.mpr found]
    exact ⟨node, _, rfl⟩

/-- The pipelines that histories lead to. -/
def Arises (p : Pipeline) : Prop := ∃ first ops, Initial first ∧ Operation.run first ops = p

theorem Arises.wellFormed (h : p.Arises) : p.WellFormed := by
  obtain ⟨first, ops, initial, rfl⟩ := h
  exact (Operation.run_reachable initial.reachable ops).wellFormed

/-- Whatever its history, a pipeline describes one simple graph. A node that is there can be removed,
and with it go exactly the edges that touch it. A refused operation does nothing, and any other
history that ends with the same identifier, name, nodes and edges ends with the same pipeline. -/
theorem one_graph_of_arises (h : p.Arises) :
    p.WellFormed ∧
      (∀ id, (∃ node q, (Change.removeNode id).run p = .ok node q) ↔ p.containsNode id) ∧
      (∀ id node q, (Change.removeNode id).run p = .ok node q →
        p.node? id = some node ∧ q.nodes = p.nodes.erase id ∧
          ∀ e, q.edges.contains e ↔ e.source ≠ id ∧ e.target ≠ id ∧ p.edges.contains e) ∧
      (∀ (op : Operation) fault q, op.change.run p = .error fault q → q = p) ∧
      ∀ q, q.Arises → q.id = p.id → q.name = p.name → q.nodes = p.nodes → q.edges = p.edges →
        q = p := by
  refine ⟨h.wellFormed, fun id => exists_run_removeNode_iff h.wellFormed, ?_, ?_, ?_⟩
  · intro id node q removed
    exact run_removeNode_eq_ok h.wellFormed removed
  · intro op fault q refused
    exact ((Operation.run_change_eq_error h.wellFormed).mp refused).2
  · intro q h' id name nodes edges
    exact h'.wellFormed.ext h.wellFormed id name nodes edges

/-- A history with a refused edge and a node that does not stay. -/
def detour : List Operation :=
  [.addNode ⟨"a", "source-pg", "", .empty⟩, .addNode ⟨"b", "target-pg", "", .empty⟩,
   .addEdge ⟨"a", "b"⟩, .addEdge ⟨"b", "a"⟩, .addNode ⟨"c", "target-pg", "", .empty⟩,
   .linkEdge ⟨"c", "a"⟩, .linkEdge ⟨"b", "c"⟩, .removeNode "c"]

/-- The same graph without detours. -/
def direct : List Operation :=
  [.addNode ⟨"b", "target-pg", "", .empty⟩, .addNode ⟨"a", "source-pg", "", .empty⟩,
   .linkEdge ⟨"a", "b"⟩]

theorem one_graph_of_arises_detour :
    (Operation.run (empty "p" "") detour).Arises ∧ (Operation.run (empty "p" "") direct).Arises ∧
      Operation.run (empty "p" "") detour = Operation.run (empty "p" "") direct := by
  have long : (Operation.run (empty "p" "") detour).Arises := ⟨_, _, .new "p" "", rfl⟩
  have short : (Operation.run (empty "p" "") direct).Arises := ⟨_, _, .new "p" "", rfl⟩
  obtain ⟨_, _, _, _, ends⟩ := one_graph_of_arises short
  refine ⟨long, short, ends _ long ?_ ?_ ?_ ?_⟩ <;> decide +kernel

end Etl.Pipeline
