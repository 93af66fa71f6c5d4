import Etl.Catalog.Standard
import Etl.Proofs.Pipeline.Cycle
import Etl.Proofs.Validation.Findings

/-!
Deployable pipelines have no stranded parts. The rule of connectivity looks at the edges of one node
at a time; that a walk from node to node leads to a source, or to an end, rests on the other rules,
which see to it that the node at each step has a category and that no walk goes on for ever.
-/

namespace Etl

open Relation

variable {p : Pipeline} {c : Catalog} {v : Validator}

namespace Validation

theorem categoryOf_eq_some {id : NodeId} {category : Category} :
    categoryOf p c id = some category ↔
      ∃ node type, p.node? id = some node ∧ c.get? node.type = some type ∧
        type.category = category := by
  simp [categoryOf, Option.map_eq_some_iff, Option.bind_eq_some_iff]

/-- A node at which data ends: a target, or a quality check that nothing reads. -/
def IsEnd (p : Pipeline) (c : Catalog) (id : NodeId) : Prop :=
  categoryOf p c id = some .target ∨
    categoryOf p c id = some .qualityCheck ∧ ∀ next, ¬ p.Joined id next

end Validation

open Validation

section Deployable

variable (h : p.WellFormed) (deployable : (v.validate p c).isDeployable)

include deployable

theorem exists_categoryOf_of_deployable {id : NodeId} (present : p.containsNode id) :
    ∃ category, categoryOf p c id = some category := by
  obtain ⟨node, found⟩ := Pipeline.containsNode_iff.mp present
  obtain ⟨type, registered⟩ :=
    registered_of_deployable deployable (Pipeline.mem_nodeList.mpr ⟨id, found⟩)
  exact ⟨type.category, categoryOf_eq_some.mpr ⟨node, type, found, registered, rfl⟩⟩

theorem connectivityOf_of_deployable {node : Node} {type : NodeType} (visited : node ∈ p.nodeList)
    (registered : c.get? node.type = some type) {d : Diagnostic}
    (found : d ∈ connectivityOf p node type) : d.severity ≠ .error := by
  have reported : d ∈ connectivity p c :=
    List.mem_flatMap.mpr ⟨(node, type), mem_resolved.mpr ⟨visited, registered⟩, found⟩
  have blocking : d.rule.isBlocking := by
    rw [(foundBy_connectivityOf found).1]
    rfl
  refine Validator.severity_ne_error deployable (Validator.mem_findings.mpr ?_) blocking
  exact .inr (.inr (.inr (.inl reported)))

include h

theorem exists_predecessor_of_deployable {id : NodeId} {category : Category}
    (known : categoryOf p c id = some category) (reads : category ≠ .source) :
    ∃ previous, p.Follows previous id := by
  obtain ⟨node, type, found, registered, rfl⟩ := categoryOf_eq_some.mp known
  have key : node.id = id := h.keyed found
  by_contra none
  have unread : p.predecessors id = [] := by
    refine List.eq_nil_iff_forall_not_mem.mpr fun a edge => none ⟨a, ?_⟩
    exact h.mem_predecessors_iff_mem_successors.mp edge
  have blamed : Diagnostic.about .error .connectivity node.id
      ("node " ++ node.id ++ " has no incoming connections") ∈ connectivityOf p node type := by
    simp [connectivityOf, reads, Pipeline.inDegree, key, unread]
  exact connectivityOf_of_deployable deployable (Pipeline.mem_nodeList.mpr ⟨id, found⟩) registered
    blamed rfl

theorem exists_successor_of_deployable {id : NodeId}
    (passes : categoryOf p c id = some .source ∨ categoryOf p c id = some .transform) :
    ∃ next, p.Follows id next := by
  obtain ⟨node, type, found, registered, category⟩ : ∃ node type, p.node? id = some node ∧
      c.get? node.type = some type ∧ (type.category = .source ∨ type.category = .transform) := by
    rcases passes with known | known
    · obtain ⟨node, type, found, registered, category⟩ := categoryOf_eq_some.mp known
      exact ⟨node, type, found, registered, .inl category⟩
    · obtain ⟨node, type, found, registered, category⟩ := categoryOf_eq_some.mp known
      exact ⟨node, type, found, registered, .inr category⟩
  have key : node.id = id := h.keyed found
  by_contra none
  have unread : p.successors id = [] :=
    List.eq_nil_iff_forall_not_mem.mpr fun b edge => none ⟨b, edge⟩
  have blamed : Diagnostic.about .error .connectivity node.id
      ("node " ++ node.id ++ " has no outgoing connections") ∈ connectivityOf p node type := by
    rcases category with category | category <;>
      simp [connectivityOf, category, Pipeline.outDegree, key, unread]
  exact connectivityOf_of_deployable deployable (Pipeline.mem_nodeList.mpr ⟨id, found⟩) registered
    blamed rfl

/-- Whoever goes back along the edges of a deployable pipeline comes to a source. -/
theorem exists_source_of_deployable {id : NodeId} (present : p.containsNode id) :
    ∃ source, categoryOf p c source = some .source ∧ ReflTransGen p.Follows source id := by
  obtain ⟨ids, ordered⟩ := ordered_of_deployable deployable h
  induction id using (Pipeline.follows_wellFounded h ordered).induction with
  | _ id ih =>
    obtain ⟨category, known⟩ := exists_categoryOf_of_deployable deployable present
    by_cases first : category = .source
    · exact ⟨id, first ▸ known, .refl⟩
    · obtain ⟨previous, edge⟩ := exists_predecessor_of_deployable h deployable known first
      obtain ⟨source, start, path⟩ := ih previous edge (h.containsNode_of_mem_successors edge).1
      exact ⟨source, start, path.tail edge⟩

/-- Whoever goes along the edges of a deployable pipeline comes to an end. -/
theorem exists_end_of_deployable {id : NodeId} (present : p.containsNode id) :
    ∃ last, ReflTransGen p.Follows id last ∧ IsEnd p c last := by
  obtain ⟨ids, ordered⟩ := ordered_of_deployable deployable h
  induction id using (Pipeline.flip_follows_wellFounded h ordered).induction with
  | _ id ih =>
    have onward : (∃ next, p.Follows id next) →
        ∃ last, ReflTransGen p.Follows id last ∧ IsEnd p c last := by
      rintro ⟨next, edge⟩
      obtain ⟨last, path, done⟩ := ih next edge (h.containsNode_of_mem_successors edge).2
      exact ⟨last, path.head edge, done⟩
    obtain ⟨category, known⟩ := exists_categoryOf_of_deployable deployable present
    cases category with
    | source => exact onward (exists_successor_of_deployable h deployable (.inl known))
    | transform => exact onward (exists_successor_of_deployable h deployable (.inr known))
    | target => exact ⟨id, .refl, .inl known⟩
    | qualityCheck =>
        by_cases read : ∃ next, p.Follows id next
        · exact onward read
        · rw [Pipeline.follows_eq_joined h] at read ⊢
          exact ⟨id, .refl, .inr ⟨known, not_exists.mp read⟩⟩

end Deployable

/-- A deployable pipeline has no stranded parts, whatever the limits and the policy: data of some
source comes to every node, and from every node it goes on to a target or to a quality check that
nothing reads. -/
theorem no_stranded_parts_of_deployable (h : p.Reachable)
    (deployable : (v.validate p c).isDeployable) :
    ∀ id, p.containsNode id →
      (∃ source, categoryOf p c source = some .source ∧ ReflTransGen p.Joined source id) ∧
        ∃ last, ReflTransGen p.Joined id last ∧ IsEnd p c last := by
  intro id present
  have sound := h.wellFormed
  rw [← Pipeline.follows_eq_joined sound]
  exact ⟨exists_source_of_deployable sound deployable present,
    exists_end_of_deployable sound deployable present⟩

/-- Two sources that one filter unites, and a check in front of the target. -/
def unitedSources : Descriptor where
  id := "p"
  name := ""
  nodes :=
    [⟨"a", "source-pg", "", .ofList [("connection", .text "dwh"), ("table", .text "orders")]⟩,
     ⟨"b", "source-pg", "", .ofList [("connection", .text "dwh"), ("table", .text "returns")]⟩,
     ⟨"c", "transform-filter", "", .ofList [("condition", .text "amount > 0")]⟩,
     ⟨"d", "quality-check", "",
       .ofList [("rule", .text "completeness"), ("column", .text "amount")]⟩,
     ⟨"e", "target-pg", "", .ofList [("connection", .text "dwh"), ("table", .text "daily")]⟩]
  edges := [⟨"a", "c"⟩, ⟨"b", "c"⟩, ⟨"c", "d"⟩, ⟨"d", "e"⟩]

theorem no_stranded_parts_unitedSources :
    ∃ p, Pipeline.ofDescriptor unitedSources = .ok p ∧
      (Validator.standard.validate p Catalog.standard).isDeployable ∧
      ∃ source last, categoryOf p Catalog.standard source = some .source ∧
        ReflTransGen p.Joined source "c" ∧ ReflTransGen p.Joined "c" last ∧
        IsEnd p Catalog.standard last := by
  obtain ⟨p, built⟩ : ∃ p, Pipeline.ofDescriptor unitedSources = .ok p := ⟨_, rfl⟩
  have deployable : (Validator.standard.validate p Catalog.standard).isDeployable := by
    apply Validator.isDeployable_of_clean
    cases built
    decide +kernel
  have present : p.containsNode "c" := by
    cases built
    decide +kernel
  obtain ⟨⟨source, start, before⟩, last, after, done⟩ :=
    no_stranded_parts_of_deployable (.loaded built) deployable "c" present
  exact ⟨p, built, deployable, source, last, start, before, after, done⟩

end Etl
