import Etl.Catalog.Standard
import Etl.Proofs.Pipeline.Ordering
import Etl.Proofs.Validation.Arrangement

/-!
Who is blamed for a cycle. Validation looks whether a node comes back to itself over one of its
edges, and only where the ordering failed; so both have to agree on which graphs have cycles. The
report blames the nodes on cycles, while the ordering cannot place those behind them either.
-/

namespace Etl

variable {p : Pipeline}

namespace Validation

/-- What is said of a node on a cycle. -/
def cycleMember (id : NodeId) : Diagnostic :=
  .about .error .acyclicity id ("node " ++ id ++ " is part of a cycle")

/-- The nodes on cycles, ascending. -/
def blamed (p : Pipeline) : List NodeId := p.nodes.keys.filter (isOnCycle p)

theorem isOnCycle_iff_onCycle (h : p.WellFormed) {id : NodeId} :
    isOnCycle p id ↔ p.OnCycle id := by
  rw [isOnCycle_iff h, Pipeline.onCycle_iff h]

theorem mem_blamed (h : p.WellFormed) {id : NodeId} : id ∈ blamed p ↔ p.OnCycle id := by
  rw [blamed, List.mem_filter, isOnCycle_iff_onCycle h, and_iff_right_of_imp]
  intro cycle
  have back := (Pipeline.onCycle_iff h).mp cycle
  obtain ⟨next, edge, _⟩ := Relation.TransGen.head'_iff.mp back
  exact SortedMap.mem_keys.mpr (h.containsNode_of_mem_successors edge).1

/-- Looking for nodes that come back to themselves and ordering the nodes agree on which graphs have
cycles. -/
theorem blamed_ne_nil_iff (h : p.WellFormed) :
    blamed p ≠ [] ↔ ∃ fault, p.order = .error fault := by
  constructor
  · intro some
    obtain ⟨id, member⟩ := List.exists_mem_of_ne_nil _ some
    obtain ⟨c, cycle, _⟩ := (mem_blamed h).mp member
    cases ordered : p.order with
    | ok ids => exact absurd cycle (Pipeline.acyclic_of_order_eq_ok h ordered c)
    | error fault => exact ⟨fault, rfl⟩
  · rintro ⟨fault, failed⟩
    obtain ⟨id, back⟩ := Pipeline.exists_cycle_of_order_eq_error h failed
    have cycle := (Pipeline.onCycle_iff h).mpr back
    exact List.ne_nil_of_mem ((mem_blamed h).mpr cycle)

theorem blamed_subset (h : p.WellFormed) {named : List NodeId}
    (failed : p.order = .error (.cycleDetected named)) : blamed p ⊆ named := by
  intro id member
  obtain ⟨short, same⟩ := Pipeline.order_eq_error_iff.mp failed
  cases same
  exact (Pipeline.mem_unemitted_iff_behindCycle h short).mpr
    ⟨id, (mem_blamed h).mp member, .refl⟩

/-- Where the nodes can be ordered, none of them is on a cycle, so that it does not matter that they
are not looked at. -/
theorem acyclicity_eq (h : p.WellFormed) : acyclicity p = (blamed p).map cycleMember := by
  unfold acyclicity
  split
  next ids ordered =>
    have none : blamed p = [] := by
      by_contra some
      obtain ⟨fault, failed⟩ := (blamed_ne_nil_iff h).mp some
      cases ordered.symm.trans failed
    rw [none, List.map_nil]
  next =>
    rw [blamed, ← h.map_id_nodeList, List.filter_map, List.map_map]
    rfl

end Validation

open Validation

/-- All findings about cycles get into the report, in ascending order of the nodes and as errors
under every policy. -/
theorem Validator.filter_acyclicity_validate (h : p.WellFormed) (v : Validator) (c : Catalog) :
    (v.validate p c).diagnostics.filter (·.rule == .acyclicity) = acyclicity p := by
  have kept : ∀ d ∈ acyclicity p, v.policy.apply d = d := by
    rw [acyclicity_eq h]
    intro d found
    obtain ⟨id, _, rfl⟩ := List.mem_map.mp found
    exact v.policy.apply_of_blocking rfl rfl
  rw [filter_rule_validate h v c (by decide), foundBy, List.map_congr_left kept]
  exact List.map_id' _

/-- The entries of a report about cycles blame the nodes on cycles and no others, each once and in
ascending order. There are such entries exactly where the nodes cannot be ordered, and the error of
the ordering names all nodes that are blamed. It can name more. -/
theorem acyclicity_exact :
    (∀ p : Pipeline, p.WellFormed → ∀ (v : Validator) (c : Catalog), ∃ blamed : List NodeId,
      acyclicity p = blamed.map cycleMember ∧
      (v.validate p c).diagnostics.filter (·.rule == .acyclicity) = blamed.map cycleMember ∧
      blamed.Pairwise (fun a b => compare a b = .lt) ∧
      (∀ id, id ∈ blamed ↔ p.OnCycle id) ∧
      (blamed ≠ [] ↔ ∃ fault, p.order = .error fault) ∧
      ∀ named, p.order = .error (.cycleDetected named) → blamed ⊆ named) ∧
    ∃ p : Pipeline, p.WellFormed ∧ ∃ named, p.order = .error (.cycleDetected named) ∧
      ∃ id ∈ named, ¬ p.OnCycle id := by
  constructor
  · intro p h v c
    refine ⟨blamed p, acyclicity_eq h, ?_, p.nodes.keys_pairwise.filter _,
      fun id => mem_blamed h, blamed_ne_nil_iff h, fun named failed => blamed_subset h failed⟩
    rw [Validator.filter_acyclicity_validate h, acyclicity_eq h]
  · obtain ⟨p, built⟩ : ∃ p, Pipeline.ofDescriptor Pipeline.knot = .ok p := ⟨_, rfl⟩
    have h := Pipeline.ofDescriptor_wellFormed built
    refine ⟨p, h, ["exit", "left", "right"], by cases built; rfl, "exit", by simp, ?_⟩
    rw [← isOnCycle_iff_onCycle h]
    cases built
    decide +kernel

/-- The nodes that read each other are blamed, and the node behind them is not. -/
theorem acyclicity_exact_knot :
    ∃ p, Pipeline.ofDescriptor Pipeline.knot = .ok p ∧ p.WellFormed ∧
      p.order = .error (.cycleDetected ["exit", "left", "right"]) ∧
      ((Validator.standard.validate p Catalog.standard).diagnostics.filter
        (·.rule == .acyclicity)).map (·.node) = [some "left", some "right"] ∧
      ¬ p.OnCycle "exit" := by
  obtain ⟨p, built⟩ : ∃ p, Pipeline.ofDescriptor Pipeline.knot = .ok p := ⟨_, rfl⟩
  have h := Pipeline.ofDescriptor_wellFormed built
  obtain ⟨blamed, found, reported, _, members, _, _⟩ :=
    acyclicity_exact.1 p h Validator.standard Catalog.standard
  have nodes : (acyclicity p).map (·.node) = [some "left", some "right"] := by
    cases built
    decide +kernel
  have those : blamed.map some = [some "left", some "right"] := by
    rw [← nodes, found, List.map_map]
    rfl
  refine ⟨p, built, h, by cases built; rfl, by rw [reported, ← found, nodes], ?_⟩
  rw [← members, ← List.mem_map_of_injective (Option.some_injective _), those]
  simp

end Etl
