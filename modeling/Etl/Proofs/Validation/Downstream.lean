import Etl.Catalog.Standard
import Etl.Proofs.Validation.Arrangement
import Etl.Proofs.Validation.Connectivity

/-!
What validation says about the nodes downstream of a node. The rules look through what a search
collects, which leaves out the node where it starts; the node has another category than the one that
is looked for, so this makes no difference, and the search finds a node of that category exactly if a
path leads to one. The path may go through nodes of any type and round cycles.
-/

namespace Etl

open Relation

variable {p : Pipeline} {c : Catalog} {id : NodeId} {own sought : Category}

namespace Validation

/-- Whether a path of at least one edge leads from a node to a node of some category. -/
def LeadsTo (p : Pipeline) (c : Catalog) (id : NodeId) (sought : Category) : Prop :=
  ∃ last, TransGen p.Joined id last ∧ categoryOf p c last = some sought

/-- What is said of a source from which no target can be reached. -/
def untargeted (id : NodeId) : Diagnostic :=
  .about .warning .targetReachability id ("source " ++ id ++ " does not reach any target")

/-- What is said of a transform from which no quality check can be reached. -/
def unchecked (id : NodeId) : Diagnostic :=
  .about .warning .recommendedConfig id ("transform " ++ id ++ " has no downstream quality check")

/-- Whether a finding is about a node of some category. -/
def concerns (p : Pipeline) (c : Catalog) (own : Category) (d : Diagnostic) : Bool :=
  d.node.any fun id => categoryOf p c id == some own

/-- The nodes of one category that have no descendant of another, ascending. -/
def cutOff (p : Pipeline) (c : Catalog) (own sought : Category) : List NodeId :=
  ((resolved p c).filter fun x => x.2.category == own && !hasDescendantOf p c x.1.id sought).map
    (·.1.id)

section

variable (h : p.WellFormed)

include h

theorem categoryOf_id_of_mem_resolved {node : Node} {type : NodeType}
    (visited : (node, type) ∈ resolved p c) : categoryOf p c node.id = some type.category := by
  obtain ⟨member, registered⟩ := mem_resolved.mp visited
  exact categoryOf_eq_some.mpr ⟨node, type, h.mem_nodeList_iff.mp member, registered, rfl⟩

/-- The start of the search is not what it looks for, so nothing is lost by leaving it out. -/
theorem hasDescendantOf_iff (known : categoryOf p c id = some own) (differ : own ≠ sought) :
    hasDescendantOf p c id sought ↔ LeadsTo p c id sought := by
  simp only [hasDescendantOf, List.any_eq_true, SortedSet.mem_toList,
    Pipeline.contains_descendants_iff h, Pipeline.follows_eq_joined h, beq_iff_eq, LeadsTo]
  constructor
  · rintro ⟨last, ⟨_, path⟩, category⟩
    exact ⟨last, path, category⟩
  · rintro ⟨last, path, category⟩
    refine ⟨last, ⟨?_, path⟩, category⟩
    rintro rfl
    exact differ (Option.some.inj (known.symm.trans category))

theorem mem_cutOff (differ : own ≠ sought) :
    id ∈ cutOff p c own sought ↔ categoryOf p c id = some own ∧ ¬ LeadsTo p c id sought := by
  simp only [cutOff, List.mem_map, List.mem_filter, Bool.and_eq_true, beq_iff_eq,
    Bool.not_eq_true', Prod.exists]
  constructor
  · rintro ⟨node, type, ⟨visited, rfl, apart⟩, rfl⟩
    have known := categoryOf_id_of_mem_resolved h visited
    rw [← hasDescendantOf_iff h known differ]
    exact ⟨known, by simp [apart]⟩
  · rintro ⟨known, apart⟩
    obtain ⟨node, type, found, registered, rfl⟩ := categoryOf_eq_some.mp known
    obtain ⟨visited, rfl⟩ := h.mem_nodeList_and_id_iff.mpr found
    rw [← hasDescendantOf_iff h known differ] at apart
    exact ⟨node, type, ⟨mem_resolved.mpr ⟨visited, registered⟩, rfl, by simpa using apart⟩, rfl⟩

theorem cutOff_pairwise (c : Catalog) (own sought : Category) :
    (cutOff p c own sought).Pairwise fun a b => compare a b = .lt := by
  rw [cutOff, List.pairwise_map]
  exact (resolved_pairwise h c).filter _

/-- The only recommendation about a transform is to check what it makes. -/
theorem filter_concerns_recommendedConfigOf {node : Node} {type : NodeType}
    (visited : (node, type) ∈ resolved p c) :
    (recommendedConfigOf p c node type).filter (concerns p c .transform) =
      if type.category == .transform && !hasDescendantOf p c node.id .qualityCheck then
        [unchecked node.id]
      else [] := by
  have known := categoryOf_id_of_mem_resolved h visited
  by_cases transform : type.category = .transform
  · rw [transform] at known
    cases found : hasDescendantOf p c node.id .qualityCheck <;>
      simp [recommendedConfigOf, transform, found, concerns, unchecked, Diagnostic.about, known]
  · have none : (recommendedConfigOf p c node type).filter (concerns p c .transform) = [] := by
      refine List.filter_eq_nil_iff.mpr fun d found => ?_
      simp [concerns, node_of_mem_recommendedConfigOf found, known, transform]
    simp [none, transform]

theorem filter_concerns_recommendedConfig (c : Catalog) :
    (recommendedConfig p c).filter (concerns p c .transform) =
      (cutOff p c .transform .qualityCheck).map unchecked := by
  rw [recommendedConfig, List.filter_flatMap, cutOff, List.map_map, ← List.filterMap_eq_map,
    List.filterMap_filter, List.filterMap_eq_flatMap_toList]
  refine List.flatMap_congr fun x visited => ?_
  rw [filter_concerns_recommendedConfigOf h visited]
  split <;> rfl

end

theorem targetReachability_eq (p : Pipeline) (c : Catalog) :
    targetReachability p c = (cutOff p c .source .target).map untargeted := by
  rw [targetReachability, cutOff, List.map_map]
  rfl

end Validation

open Validation

/-- Entries about different nodes stay different under a policy. -/
theorem Policy.apply_about_injective (policy : Policy) (severity : Severity) (rule : Rule)
    (say : NodeId → String) :
    Function.Injective fun id => policy.apply (.about severity rule id (say id)) := by
  intro a b same
  have nodes := congrArg Diagnostic.node same
  simpa [policy.node_apply, Diagnostic.about] using nodes

namespace Validator

theorem filter_untargeted_validate (h : p.WellFormed) (v : Validator) (c : Catalog) :
    (v.validate p c).diagnostics.filter (·.rule == .targetReachability) =
      (cutOff p c .source .target).map fun id => v.policy.apply (untargeted id) := by
  rw [filter_rule_validate h v c (by decide), foundBy, targetReachability_eq, List.map_map]
  rfl

theorem filter_unchecked_validate (h : p.WellFormed) (v : Validator) (c : Catalog) :
    (v.validate p c).diagnostics.filter (fun d =>
        concerns p c .transform d && d.rule == .recommendedConfig) =
      (cutOff p c .transform .qualityCheck).map fun id => v.policy.apply (unchecked id) := by
  have blind : ∀ d, concerns p c .transform (v.policy.apply d) = concerns p c .transform d :=
    fun d => by rw [concerns, concerns, v.policy.node_apply]
  rw [← List.filter_filter, filter_rule_validate h v c (by decide),
    v.policy.filter_map_apply blind, foundBy, filter_concerns_recommendedConfig h, List.map_map]
  rfl

/-- Validation warns about the sources from which no path leads to a target, and about the
transforms from which no path leads to a quality check: about each of them once, in ascending order,
and about no others. Paths have at least one edge; they go along cycles and through nodes of any
type, registered or not. A policy can change how much the warnings weigh. -/
theorem validate_downstream (v : Validator) (c : Catalog) (h : p.Reachable) :
    (∃ sources : List NodeId,
      (v.validate p c).diagnostics.filter (·.rule == .targetReachability) =
        sources.map (fun id => v.policy.apply (untargeted id)) ∧
      sources.Pairwise (fun a b => compare a b = .lt) ∧
      ∀ id, id ∈ sources ↔ categoryOf p c id = some .source ∧ ¬ LeadsTo p c id .target) ∧
    ∃ transforms : List NodeId,
      (v.validate p c).diagnostics.filter (fun d =>
          concerns p c .transform d && d.rule == .recommendedConfig) =
        transforms.map (fun id => v.policy.apply (unchecked id)) ∧
      transforms.Pairwise (fun a b => compare a b = .lt) ∧
      ∀ id, id ∈ transforms ↔ categoryOf p c id = some .transform ∧ ¬ LeadsTo p c id .qualityCheck := by
  have sound := h.wellFormed
  exact ⟨⟨_, filter_untargeted_validate sound v c, cutOff_pairwise sound c _ _,
      fun _ => mem_cutOff sound (by decide)⟩,
    _, filter_unchecked_validate sound v c, cutOff_pairwise sound c _ _,
      fun _ => mem_cutOff sound (by decide)⟩

/-- Two sources, of which one feeds a loop only. The other and a filter lead to a node of unknown
type, and through that to a check and a target. -/
def loopAndStranger : Descriptor where
  id := "p"
  name := ""
  nodes :=
    [⟨"a", "source-pg", "", .empty⟩, ⟨"check", "quality-check", "", .empty⟩,
     ⟨"filter", "transform-filter", "", .empty⟩, ⟨"loop", "transform-filter", "", .empty⟩,
     ⟨"s", "source-pg", "", .empty⟩, ⟨"stranger", "mystery", "", .empty⟩,
     ⟨"t", "target-pg", "", .empty⟩]
  edges :=
    [⟨"a", "stranger"⟩, ⟨"filter", "stranger"⟩, ⟨"stranger", "check"⟩, ⟨"stranger", "t"⟩,
     ⟨"s", "loop"⟩, ⟨"loop", "s"⟩]

/-- The source and the transform on the loop are warned about. Those in front of the node of unknown
type are not, because a path leads on through it. -/
theorem validate_downstream_loopAndStranger :
    ∃ p, Pipeline.ofDescriptor loopAndStranger = .ok p ∧ p.Reachable ∧
      (standard.validate p .standard).diagnostics.filter (·.rule == .targetReachability) =
        [untargeted "s"] ∧
      ¬ LeadsTo p .standard "s" .target ∧ LeadsTo p .standard "a" .target ∧
      ¬ LeadsTo p .standard "loop" .qualityCheck ∧ LeadsTo p .standard "filter" .qualityCheck := by
  obtain ⟨p, built⟩ : ∃ p, Pipeline.ofDescriptor loopAndStranger = .ok p := ⟨_, rfl⟩
  have h : p.Reachable := .loaded built
  have found : cutOff p .standard .source .target = ["s"] ∧
      cutOff p .standard .transform .qualityCheck = ["loop"] := by
    cases built
    decide +kernel
  have categories : categoryOf p .standard "a" = some .source ∧
      categoryOf p .standard "filter" = some .transform := by
    cases built
    decide +kernel
  obtain ⟨⟨sources, warned, _, stranded⟩, transforms, advised, _, unread⟩ :=
    standard.validate_downstream Catalog.standard h
  rw [filter_untargeted_validate h.wellFormed, found.1] at warned
  rw [filter_unchecked_validate h.wellFormed, found.2] at advised
  obtain rfl : ["s"] = sources :=
    List.map_injective_iff.mpr (Policy.apply_about_injective ..) warned
  obtain rfl : ["loop"] = transforms :=
    List.map_injective_iff.mpr (Policy.apply_about_injective ..) advised
  refine ⟨p, built, h, ?_, ((stranded "s").mp (by simp)).2, ?_,
    ((unread "loop").mp (by simp)).2, ?_⟩
  · rw [filter_untargeted_validate h.wellFormed, found.1, List.map_singleton]
    exact congrArg (fun d => [d]) (Policy.apply_empty _)
  · by_contra none
    simpa using (stranded "a").mpr ⟨categories.1, none⟩
  · by_contra none
    simpa using (unread "filter").mpr ⟨categories.2, none⟩

end Validator

end Etl
