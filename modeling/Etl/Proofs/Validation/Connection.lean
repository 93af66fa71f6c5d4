import Etl.Proofs.Validation.Acyclicity
import Etl.Proofs.Validation.Downstream

/-!
Connecting nodes makes nothing worse. More edges that close no cycle give every node more
neighbours and lead it to more nodes, and each rule that looks at edges complains about edges that
are missing or about cycles. What a rule finds is then left of what it found before, in the same
order. Only the limits count edges the other way.
-/

namespace Etl

open Relation Validation

variable {p q : Pipeline} {c : Catalog} {v : Validator}

/-- The second pipeline has the nodes of the first and at least its edges, and no cycles but those
of the first. -/
structure Pipeline.GrowsTo (p q : Pipeline) : Prop where
  nodes : p.nodes = q.nodes
  joined : ∀ {a b}, p.Joined a b → q.Joined a b
  onCycle : ∀ {a}, q.OnCycle a → p.OnCycle a

theorem Pipeline.growsTo_of_addEdge (h : p.WellFormed) {e : Edge} (added : p.addEdge e = .ok q) :
    p.GrowsTo q := by
  obtain ⟨_, _, rfl⟩ := addEdge_eq_ok added
  refine ⟨rfl, fun {a b} edge => ?_, fun {a} => ?_⟩
  · rw [joined_insertEdge]
    exact .inl edge
  · rintro ⟨cycle, closed, member⟩
    exact ⟨cycle, isCycle_of_addEdge h added closed, member⟩

/-- What is said on a condition is said on a weaker one. -/
theorem sublist_ite {α : Type} {a b : Prop} [Decidable a] [Decidable b] (said : List α)
    (weaker : a → b) : (if a then said else []).Sublist (if b then said else []) := by
  split
  next holds => rw [if_pos (weaker holds)]
  next => exact List.nil_sublist _

namespace Pipeline.GrowsTo

variable (grows : p.GrowsTo q) (hp : p.WellFormed) (hq : q.WellFormed)

include grows

theorem nodeList_eq : p.nodeList = q.nodeList := congrArg SortedMap.values grows.nodes

theorem categoryOf_eq (c : Catalog) : categoryOf p c = categoryOf q c := by
  funext id
  simp only [categoryOf, node?, grows.nodes]

theorem resolved_eq (c : Catalog) : resolved p c = resolved q c := by
  rw [resolved, resolved, grows.nodeList_eq]

include hp hq

theorem successors_eq_nil {id : NodeId} (none : q.successors id = []) : p.successors id = [] := by
  refine List.eq_nil_iff_forall_not_mem.mpr fun next edge => ?_
  have kept := hq.mem_successors_iff.mpr (grows.joined (hp.mem_successors_iff.mp edge))
  simp [none] at kept

theorem predecessors_eq_nil {id : NodeId} (none : q.predecessors id = []) :
    p.predecessors id = [] := by
  refine List.eq_nil_iff_forall_not_mem.mpr fun previous edge => ?_
  have kept := hq.mem_predecessors_iff.mpr (grows.joined (hp.mem_predecessors_iff.mp edge))
  simp [none] at kept

theorem hasDescendantOf_mono {id : NodeId} {sought : Category}
    (found : hasDescendantOf p c id sought) : hasDescendantOf q c id sought := by
  simp only [hasDescendantOf, List.any_eq_true, SortedSet.mem_toList] at found ⊢
  obtain ⟨last, below, category⟩ := found
  refine ⟨last, ?_, by rwa [← grows.categoryOf_eq]⟩
  rw [contains_descendants_iff hp, follows_eq_joined hp] at below
  rw [contains_descendants_iff hq, follows_eq_joined hq]
  exact ⟨below.1, TransGen.mono (r := p.Joined) (fun _ _ => grows.joined) _ _ below.2⟩

theorem acyclicity_sublist : (acyclicity q).Sublist (acyclicity p) := by
  rw [acyclicity_eq hp, acyclicity_eq hq, blamed, blamed, grows.nodes]
  refine (List.monotone_filter_right _ fun id cycle => ?_).map _
  exact (isOnCycle_iff_onCycle hp).mpr (grows.onCycle ((isOnCycle_iff_onCycle hq).mp cycle))

theorem connectivityOf_sublist (node : Node) (type : NodeType) :
    (connectivityOf q node type).Sublist (connectivityOf p node type) := by
  have unfed : q.inDegree node.id = 0 → p.inDegree node.id = 0 := by
    simp only [inDegree, List.length_eq_zero_iff]
    exact grows.predecessors_eq_nil hp hq
  have unread : q.outDegree node.id = 0 → p.outDegree node.id = 0 := by
    simp only [outDegree, List.length_eq_zero_iff]
    exact grows.successors_eq_nil hp hq
  exact (sublist_ite _ fun lacks => ⟨lacks.1, unfed lacks.2⟩).append (sublist_ite _ unread)

theorem recommendedConfigOf_sublist (c : Catalog) (node : Node) (type : NodeType) :
    (recommendedConfigOf q c node type).Sublist (recommendedConfigOf p c node type) := by
  unfold recommendedConfigOf
  split
  · split
    · exact List.nil_sublist _
    next apart =>
      rw [if_neg fun found => apart (grows.hasDescendantOf_mono hp hq found)]
  all_goals exact .refl _

/-- What a rule finds, it found before. -/
theorem foundBy_sublist (v : Validator) (c : Catalog) {r : Rule} (other : r ≠ .limits) :
    (v.foundBy q c r).Sublist (v.foundBy p c r) := by
  cases r with
  | limits => exact absurd rfl other
  | typeExistence =>
      simp only [Validator.foundBy, typeExistence, grows.nodeList_eq]
      exact .refl _
  | acyclicity => exact grows.acyclicity_sublist hp hq
  | connectivity =>
      simp only [Validator.foundBy, connectivity, grows.resolved_eq]
      exact .flatMap_right _ fun x _ => grows.connectivityOf_sublist hp hq x.1 x.2
  | requiredConfig =>
      simp only [Validator.foundBy, requiredConfig, grows.resolved_eq]
      exact .refl _
  | recommendedConfig =>
      simp only [Validator.foundBy, recommendedConfig, grows.resolved_eq]
      exact .flatMap_right _ fun x _ => grows.recommendedConfigOf_sublist hp hq c x.1 x.2
  | targetReachability =>
      simp only [Validator.foundBy, targetReachability, grows.resolved_eq]
      refine (List.monotone_filter_right _ fun x apart => ?_).map _
      simp only [Bool.and_eq_true, Bool.not_eq_true', ← Bool.not_eq_true] at apart ⊢
      exact ⟨apart.1, fun found => apart.2 (grows.hasDescendantOf_mono hp hq found)⟩
  | readiness => exact .refl _

/-- The findings of all rules but the limits are left of what these rules found before. -/
theorem findings_sublist (v : Validator) (c : Catalog) :
    ((v.findings q c).filter (·.rule != .limits)).Sublist (v.findings p c) := by
  rw [Validator.findings_eq hq, Validator.findings_eq hp, List.filter_flatMap]
  refine .flatMap_right _ fun r _ => ?_
  by_cases limits : r = .limits
  · have none : (v.foundBy q c r).filter (·.rule != .limits) = [] := by
      refine List.filter_eq_nil_iff.mpr fun d found => ?_
      simp [(Validator.foundBy_sound found).1, limits]
    rw [none]
    exact List.nil_sublist _
  · exact List.filter_sublist.trans (grows.foundBy_sublist hp hq v c limits)

omit hp hq in
/-- The limit on nodes is as it was, and that on edges is kept. -/
theorem mem_limits {l : Limits} (allowed : q.edgeCount ≤ l.maxEdges.toNat) {d : Diagnostic}
    (found : d ∈ limits q l) : d ∈ limits p l := by
  have nodes : p.nodeCount = q.nodeCount := congrArg SortedMap.size grows.nodes
  rcases List.mem_append.mp found with found | found
  · rw [limits, nodes]
    exact List.mem_append_left _ found
  · rw [if_neg (by omega)] at found
    cases found

end Pipeline.GrowsTo

/-- Connecting nodes makes nothing worse. After an edge was added, each entry of the report that is
not about limits or readiness was in the report before, with the same severity and message; the
entries are in the order they had, and none is there more often. A pipeline that was deployable is
deployable still, unless it has too many edges now. -/
theorem Validator.validate_addEdge (v : Validator) (c : Catalog) (h : p.Reachable) {e : Edge}
    (added : p.addEdge e = .ok q) :
    ((v.validate q c).diagnostics.filter fun d =>
        d.rule != .limits && d.rule != .readiness).Sublist (v.validate p c).diagnostics ∧
      ((v.validate p c).isDeployable → q.edgeCount ≤ v.limits.maxEdges.toNat →
        (v.validate q c).isDeployable) := by
  have hp := h.wellFormed
  have hq : q.WellFormed := (h.step (.addEdge added)).wellFormed
  have grows := Pipeline.growsTo_of_addEdge hp added
  have less := grows.findings_sublist hp hq v c
  constructor
  · have blind : ∀ d, ((v.policy.apply d).rule != .limits) = (d.rule != .limits) := fun d => by
      rw [v.policy.rule_apply]
    have entries : (v.validate p c).entries.Sublist (v.validate p c).diagnostics :=
      List.filter_sublist
    rw [entries_validate] at entries
    rw [← List.filter_filter, ← Report.entries, entries_validate, v.policy.filter_map_apply blind]
    exact (less.map _).trans entries
  · intro deployable allowed
    rw [isDeployable_iff] at deployable ⊢
    intro d found
    apply deployable
    by_cases limits : d.rule = .limits
    · rw [mem_findings_iff_foundBy, limits] at found ⊢
      exact grows.mem_limits allowed found
    · exact less.subset (List.mem_filter.mpr ⟨found, by simpa using limits⟩)

/-- A source on a loop, beside a target. -/
def closedLoop : Descriptor where
  id := "p"
  name := ""
  nodes :=
    [⟨"loop", "transform-filter", "", .empty⟩, ⟨"s", "source-pg", "", .empty⟩,
     ⟨"t", "target-pg", "", .empty⟩]
  edges := [⟨"s", "loop"⟩, ⟨"loop", "s"⟩]

/-- A way out of the loop lets its source reach the target. The loop itself is still blamed. -/
theorem Validator.validate_addEdge_wayOut :
    ∃ p q, Pipeline.ofDescriptor closedLoop = .ok p ∧ p.addEdge ⟨"loop", "t"⟩ = .ok q ∧
      ((standard.validate q .standard).diagnostics.filter fun d =>
        d.rule != .limits && d.rule != .readiness).Sublist
          (standard.validate p .standard).diagnostics ∧
      untargeted "s" ∈ (standard.validate p .standard).diagnostics ∧
      untargeted "s" ∉ (standard.validate q .standard).diagnostics ∧
      cycleMember "loop" ∈ (standard.validate q .standard).diagnostics := by
  obtain ⟨p, built⟩ : ∃ p, Pipeline.ofDescriptor closedLoop = .ok p := ⟨_, rfl⟩
  let e : Edge := ⟨"loop", "t"⟩
  have free : p.edgeFault? e = none ∧ p.canReach e.target e.source = false := by
    cases built
    decide +kernel
  have added : p.addEdge e = .ok (p.insertEdge e) := by
    rw [Pipeline.addEdge, free.1]
    exact if_neg (by simp [free.2])
  have before : untargeted "s" ∈ targetReachability p .standard := by
    cases built
    decide +kernel
  have after : targetReachability (p.insertEdge e) .standard = [] ∧
      cycleMember "loop" ∈ acyclicity (p.insertEdge e) := by
    cases built
    decide +kernel
  refine ⟨p, _, built, added, (standard.validate_addEdge .standard (.loaded built) added).1,
    ?_, ?_, ?_⟩
  · exact apply_mem_diagnostics (exists_mem_foundBy.mpr ⟨.targetReachability, before⟩)
  · intro reported
    obtain ⟨found, member, _⟩ :=
      exists_foundBy_of_mem_diagnostics (r := .targetReachability) (by decide) reported rfl
    simp [foundBy, after.1] at member
  · exact apply_mem_diagnostics (exists_mem_foundBy.mpr ⟨.acyclicity, after.2⟩)

end Etl
