import Mathlib.Data.List.Forall2
import Etl.Catalog.Standard
import Etl.Proofs.Validation.Acyclicity

/-!
What a new configuration changes. The rules about the graph read identifiers, types and edges, and
the rules about configurations speak about one node at a time, of which they read the configuration
and not the label. So nothing but the findings about the configuration of a node depends on it.
-/

namespace Etl

open Results Validation

variable {p q : Pipeline} {c : Catalog} {free : NodeId → Bool}

/-- Nodes with the same identifier and type and, unless the node is free to be configured anew, with
the same configuration. Labels may differ. -/
structure Node.AlikeUnless (free : NodeId → Bool) (a b : Node) : Prop where
  id : a.id = b.id
  type : a.type = b.type
  config : free a.id = false → a.config = b.config

/-- Pipelines with such nodes and the same edges. Their names may differ. -/
structure Pipeline.AlikeUnless (free : NodeId → Bool) (p q : Pipeline) : Prop where
  nodes : List.Forall₂ (Node.AlikeUnless free) p.nodeList q.nodeList
  edges : p.edges = q.edges

/-- Whether a finding is about the configuration of a free node. -/
def Diagnostic.isConfigOf (free : NodeId → Bool) (d : Diagnostic) : Bool :=
  (d.rule == .requiredConfig || d.rule == .recommendedConfig) && d.node.any free

/-- The entries of a report without its readiness entry and those about the configuration of free
nodes. -/
def Report.apartFrom (r : Report) (free : NodeId → Bool) : List Diagnostic :=
  r.entries.filter fun d => !d.isConfigOf free

section Hidden

variable {node : Node} {type : NodeType} (picked : free node.id)

include picked

theorem filter_requiredConfigOf_eq_nil :
    (requiredConfigOf node type).filter (fun d => !d.isConfigOf free) = [] := by
  refine List.filter_eq_nil_iff.mpr fun d found => ?_
  simp [Diagnostic.isConfigOf, (foundBy_requiredConfigOf found).1,
    node_of_mem_requiredConfigOf found, picked]

theorem filter_recommendedConfigOf_eq_nil :
    (recommendedConfigOf p c node type).filter (fun d => !d.isConfigOf free) = [] := by
  refine List.filter_eq_nil_iff.mpr fun d found => ?_
  simp [Diagnostic.isConfigOf, (foundBy_recommendedConfigOf found).1,
    node_of_mem_recommendedConfigOf found, picked]

end Hidden

namespace Node.AlikeUnless

variable {a b : Node} {type : NodeType} (alike : a.AlikeUnless free b)

include alike

theorem eq_relabelled (bound : free a.id = false) : b = { a with label := b.label } := by
  obtain ⟨id, type, config⟩ := alike
  cases b
  simp_all

theorem filter_requiredConfigOf_eq :
    (requiredConfigOf a type).filter (fun d => !d.isConfigOf free) =
      (requiredConfigOf b type).filter fun d => !d.isConfigOf free := by
  cases picked : free a.id with
  | false =>
      -- The label is all that can differ, and nothing is read from it.
      rw [alike.eq_relabelled picked]
      rfl
  | true =>
      rw [filter_requiredConfigOf_eq_nil picked,
        filter_requiredConfigOf_eq_nil (alike.id ▸ picked)]

theorem filter_recommendedConfigOf_eq
    (below : ∀ id sought, hasDescendantOf p c id sought = hasDescendantOf q c id sought) :
    (recommendedConfigOf p c a type).filter (fun d => !d.isConfigOf free) =
      (recommendedConfigOf q c b type).filter fun d => !d.isConfigOf free := by
  cases picked : free a.id with
  | false =>
      rw [alike.eq_relabelled picked]
      simp only [recommendedConfigOf, below]
      rfl
  | true =>
      rw [filter_recommendedConfigOf_eq_nil picked,
        filter_recommendedConfigOf_eq_nil (alike.id ▸ picked)]

end Node.AlikeUnless

namespace Pipeline.AlikeUnless

variable (alike : p.AlikeUnless free q) (hp : p.WellFormed) (hq : q.WellFormed)

include alike

theorem resolved_related (c : Catalog) : List.Forall₂ (fun x y => x.1.AlikeUnless free y.1 ∧
    x.2 = y.2) (resolved p c) (resolved q c) := by
  refine List.rel_filterMap (fun a b same => ?_) alike.nodes
  rw [same.type]
  cases c.get? b.type with
  | none => exact .none
  | some type => exact .some ⟨same, rfl⟩

include hp hq

theorem sameGraph : p.SameGraph q :=
  .of_nodes hp hq (fun _ _ => Node.AlikeUnless.id) alike.nodes alike.edges

theorem categoryOf_eq (c : Catalog) (id : NodeId) : categoryOf p c id = categoryOf q c id := by
  have present := (alike.sameGraph hp hq).containsNode_eq id
  simp only [containsNode, SortedMap.contains] at present
  unfold categoryOf node?
  cases left : p.nodes.get? id with
  | none => simp_all
  | some a =>
      obtain ⟨b, right⟩ : ∃ b, q.nodes.get? id = some b := by
        simpa [left, Option.isSome_iff_exists] using present
      have same := related_of_node? hp hq (fun _ _ => Node.AlikeUnless.id) alike.nodes left right
      simp [right, same.type]

theorem hasDescendantOf_eq (c : Catalog) (id : NodeId) (sought : Category) :
    hasDescendantOf p c id sought = hasDescendantOf q c id sought := by
  rw [Bool.eq_iff_iff]
  simp only [hasDescendantOf, List.any_eq_true, SortedSet.mem_toList, contains_descendants_iff hp,
    contains_descendants_iff hq, (alike.sameGraph hp hq).follows_eq hp hq,
    alike.categoryOf_eq hp hq]

theorem limits_eq (l : Limits) : limits p l = limits q l := by
  rw [limits, limits, (alike.sameGraph hp hq).nodeCount_eq, edgeCount, edgeCount, alike.edges]

theorem acyclicity_eq : acyclicity p = acyclicity q := by
  have cycles : isOnCycle p = isOnCycle q := by
    funext id
    rw [Bool.eq_iff_iff, isOnCycle_iff hp, isOnCycle_iff hq,
      (alike.sameGraph hp hq).follows_eq hp hq]
  rw [Validation.acyclicity_eq hp, Validation.acyclicity_eq hq, blamed, blamed, cycles,
    (alike.sameGraph hp hq).keys]

theorem connectivityOf_eq {a b : Node} (same : a.id = b.id) (type : NodeType) :
    connectivityOf p a type = connectivityOf q b type := by
  have graph := alike.sameGraph hp hq
  unfold connectivityOf inDegree outDegree
  rw [graph.successors_eq hp hq, graph.predecessors_eq hp hq, same]

/-- Each rule finds what it found, but for the configuration of free nodes. -/
theorem filter_foundBy_eq (v : Validator) (c : Catalog) (r : Rule) :
    (v.foundBy p c r).filter (fun d => !d.isConfigOf free) =
      (v.foundBy q c r).filter fun d => !d.isConfigOf free := by
  have pairs := alike.resolved_related c
  cases r with
  | limits => rw [Validator.foundBy, Validator.foundBy, alike.limits_eq hp hq]
  | typeExistence =>
      refine congrArg _ (map_filter_eq_of_forall₂ alike.nodes (fun a b same => ?_) fun a b same => ?_)
      · rw [same.type]
      · rw [same.type, same.id]
  | acyclicity => rw [Validator.foundBy, Validator.foundBy, alike.acyclicity_eq hp hq]
  | connectivity =>
      refine congrArg _ (flatMap_eq_of_forall₂ pairs fun x y same => ?_)
      simp only [same.2, alike.connectivityOf_eq hp hq same.1.id]
  | requiredConfig =>
      simp only [Validator.foundBy, requiredConfig, List.filter_flatMap]
      refine flatMap_eq_of_forall₂ pairs fun x y same => ?_
      rw [same.1.filter_requiredConfigOf_eq, same.2]
  | recommendedConfig =>
      simp only [Validator.foundBy, recommendedConfig, List.filter_flatMap]
      refine flatMap_eq_of_forall₂ pairs fun x y same => ?_
      rw [same.1.filter_recommendedConfigOf_eq (alike.hasDescendantOf_eq hp hq c), same.2]
  | targetReachability =>
      refine congrArg _ (map_filter_eq_of_forall₂ pairs (fun x y same => ?_) fun x y same => ?_)
      · simp only [same.2, same.1.id, alike.hasDescendantOf_eq hp hq]
      · simp only [same.1.id]
  | readiness => rfl

theorem filter_findings_eq (v : Validator) (c : Catalog) :
    (v.findings p c).filter (fun d => !d.isConfigOf free) =
      (v.findings q c).filter fun d => !d.isConfigOf free := by
  rw [Validator.findings_eq hp, Validator.findings_eq hq, List.filter_flatMap, List.filter_flatMap]
  exact List.flatMap_congr fun r _ => alike.filter_foundBy_eq hp hq v c r

end Pipeline.AlikeUnless

namespace Pipeline

theorem exists_editNode_eq_ok {id : NodeId} (present : p.containsNode id) (change : Node → Node) :
    ∃ q, p.editNode id change = .ok q := by
  obtain ⟨node, found⟩ := containsNode_iff.mp present
  exact ⟨_, by rw [editNode, requireNode_eq_ok.mpr found]; rfl⟩

/-- An edit of one node leaves the other nodes and the edges as they are. -/
theorem alikeUnless_of_editNode (h : p.WellFormed) {id : NodeId} {change : Node → Node}
    (edited : p.editNode id change = .ok q)
    (keeps : ∀ node : Node, node.id = id → node.AlikeUnless free { change node with id := node.id }) :
    p.AlikeUnless free q := by
  obtain ⟨node, found, rfl⟩ := editNode_eq_ok edited
  refine ⟨?_, rfl⟩
  have inPlace := SortedMap.modify_eq_insert found fun node => { change node with id := node.id }
  simp only [nodeList, ← inPlace, SortedMap.values, SortedMap.modify, List.map_map]
  rw [List.forall₂_map_left_iff, List.forall₂_map_right_iff, List.forall₂_same]
  intro entry member
  rw [Function.comp_apply, SortedMap.compare_beq_eq]
  split
  next here =>
    have key : entry.2.id = entry.1 := h.keyed (SortedMap.get?_eq_some_iff.mpr member)
    exact keeps entry.2 (by simpa [key, eq_comm] using here)
  next => exact ⟨rfl, rfl, fun _ => rfl⟩

end Pipeline

namespace Validator

theorem apartFrom_validate (v : Validator) (p : Pipeline) (c : Catalog) (free : NodeId → Bool) :
    (v.validate p c).apartFrom free =
      ((v.findings p c).filter fun d => !d.isConfigOf free).map v.policy.apply := by
  refine Eq.trans ?_ (v.policy.filter_map_apply (fun d => ?_) _)
  · rw [Report.apartFrom, entries_validate]
  · rw [Diagnostic.isConfigOf, Diagnostic.isConfigOf, v.policy.rule_apply, v.policy.node_apply]

/-- Where no node is free, nothing changes. -/
theorem validate_eq_of_alike (v : Validator) (c : Catalog) (hp : p.WellFormed) (hq : q.WellFormed)
    (alike : p.AlikeUnless (fun _ => false) q) : v.validate q c = v.validate p c := by
  have all : ∀ d : Diagnostic, d.isConfigOf (fun _ => false) = false := by
    intro d
    cases named : d.node <;> simp [Diagnostic.isConfigOf, named]
  have same := alike.filter_findings_eq hp hq v c
  simp only [all, Bool.not_false, List.filter_true] at same
  rw [validate, validate, same]

/-- A new configuration of a node changes a report only in what it says about the configuration of
that node, and perhaps in whether the pipeline is ready; the other entries are the same, in the same
order. New labels and a new name of the pipeline change nothing. -/
theorem validate_reconfigured (v : Validator) (c : Catalog) (h : p.Reachable) :
    (∀ id, p.containsNode id → ∀ config, ∃ q, p.configure id config = .ok q ∧
      (v.validate q c).apartFrom (· == id) = (v.validate p c).apartFrom (· == id)) ∧
    (∀ id, p.containsNode id → ∀ label, ∃ q, p.relabel id label = .ok q ∧
      v.validate q c = v.validate p c) ∧
    ∀ name, v.validate (p.setName name) c = v.validate p c := by
  have sound := h.wellFormed
  refine ⟨fun id present config => ?_, fun id present label => ?_, fun name => ?_⟩
  · obtain ⟨q, edited⟩ := Pipeline.exists_editNode_eq_ok present fun node => { node with config }
    have alike : p.AlikeUnless (· == id) q :=
      Pipeline.alikeUnless_of_editNode sound edited fun node key =>
        ⟨rfl, rfl, fun other => by simp [key] at other⟩
    refine ⟨q, edited, ?_⟩
    rw [apartFrom_validate, apartFrom_validate,
      alike.filter_findings_eq sound (h.step (.editNode edited)).wellFormed]
  · obtain ⟨q, edited⟩ := Pipeline.exists_editNode_eq_ok present fun node => { node with label }
    refine ⟨q, edited, validate_eq_of_alike v c sound (h.step (.editNode edited)).wellFormed ?_⟩
    exact Pipeline.alikeUnless_of_editNode sound edited fun node _ => ⟨rfl, rfl, fun _ => rfl⟩
  · refine validate_eq_of_alike v c sound (sound.setName name) ⟨?_, rfl⟩
    exact List.forall₂_same.mpr fun node _ => ⟨rfl, rfl, fun _ => rfl⟩

/-- Two filters in a row, both without a condition. -/
def bareFilters : Descriptor where
  id := "p"
  name := ""
  nodes :=
    [⟨"a", "source-pg", "", .ofList [("connection", .text "dwh"), ("table", .text "orders")]⟩,
     ⟨"b", "transform-filter", "", .empty⟩, ⟨"c", "transform-filter", "", .empty⟩,
     ⟨"d", "target-pg", "", .ofList [("connection", .text "dwh"), ("table", .text "daily")]⟩]
  edges := [⟨"a", "b"⟩, ⟨"b", "c"⟩, ⟨"c", "d"⟩]

/-- A condition for the first filter clears what is said about it. The second filter is still without
one. -/
theorem validate_reconfigured_bareFilters :
    let lacks (id : NodeId) : Diagnostic := .about .error .requiredConfig id
      ("node " ++ id ++ " is missing required field 'condition'")
    ∃ p q, Pipeline.ofDescriptor bareFilters = .ok p ∧
      p.configure "b" (.ofList [("condition", .text "amount > 0")]) = .ok q ∧
      (standard.validate q .standard).apartFrom (· == "b") =
        (standard.validate p .standard).apartFrom (· == "b") ∧
      lacks "b" ∈ (standard.validate p .standard).diagnostics ∧
      lacks "b" ∉ (standard.validate q .standard).diagnostics ∧
      lacks "c" ∈ (standard.validate q .standard).diagnostics := by
  intro lacks
  obtain ⟨p, built⟩ : ∃ p, Pipeline.ofDescriptor bareFilters = .ok p := ⟨_, rfl⟩
  have h : p.Reachable := .loaded built
  have present : p.containsNode "b" := by
    cases built
    decide +kernel
  obtain ⟨q, edited, same⟩ := (standard.validate_reconfigured .standard h).1 "b" present
    (.ofList [("condition", .text "amount > 0")])
  have before : lacks "b" ∈ requiredConfig p .standard := by
    cases built
    decide +kernel
  have after : requiredConfig q .standard = [lacks "c"] := by
    obtain ⟨node, found, rfl⟩ := Pipeline.editNode_eq_ok edited
    cases built
    cases found
    decide +kernel
  have still : lacks "c" ∈ requiredConfig q .standard := by
    rw [after]
    exact List.mem_singleton_self _
  refine ⟨p, q, built, edited, same, ?_, ?_, ?_⟩
  · exact apply_mem_diagnostics (exists_mem_foundBy.mpr ⟨.requiredConfig, before⟩)
  · intro reported
    obtain ⟨found, member, equal⟩ :=
      exists_foundBy_of_mem_diagnostics (r := .requiredConfig) (by decide) reported rfl
    rw [foundBy, after, List.mem_singleton] at member
    rw [member] at equal
    exact absurd equal (by decide)
  · exact apply_mem_diagnostics (exists_mem_foundBy.mpr ⟨.requiredConfig, still⟩)

end Validator

end Etl
