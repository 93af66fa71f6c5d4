import Etl.Proofs.Pipeline.Order
import Etl.Validation.Validator

/-!
What a deployable report says about the pipeline. A policy cannot touch the errors of a blocking
rule, so none of these rules found any: all types are registered, the nodes can be ordered, and the
settings of every node can be made.
-/

namespace Etl

variable {p : Pipeline} {c : Catalog} {v : Validator}

/-- A policy leaves the errors of blocking rules as they are. -/
theorem Policy.apply_of_blocking (policy : Policy) {d : Diagnostic} (error : d.severity = .error)
    (blocking : d.rule.isBlocking) : policy.apply d = d := by
  obtain ⟨severity, rule, message, node⟩ := d
  cases error
  unfold apply severityFor
  cases found : policy.overrides.get? rule with
  | none => simp
  | some s =>
      have same : s = .error :=
        policy.blocking (rule, s) (SortedMap.get?_eq_some_iff.mp found) blocking
      simp [same]

namespace Validator

theorem mem_findings {d : Diagnostic} :
    d ∈ v.findings p c ↔
      d ∈ Validation.limits p v.limits ∨ d ∈ Validation.typeExistence p c ∨
        d ∈ Validation.acyclicity p ∨ d ∈ Validation.connectivity p c ∨
        d ∈ Validation.requiredConfig p c ∨ d ∈ Validation.recommendedConfig p c ∨
        d ∈ Validation.targetReachability p c := by
  simp [findings]

theorem isDeployable_iff :
    (v.validate p c).isDeployable ↔ ∀ d ∈ v.findings p c, (v.policy.apply d).isError = false := by
  have none : ((v.findings p c).map v.policy.apply).any (·.isError) = false ↔
      ∀ d ∈ v.findings p c, (v.policy.apply d).isError = false := by
    simp
  rw [← none]
  simp only [validate, Report.isDeployable]
  split
  next blocked => simp only [blocked, Bool.not_true, Bool.false_eq_true, Bool.true_eq_false]
  next free =>
    have free : ((v.findings p c).map v.policy.apply).any (·.isError) = false := by simpa using free
    simp only [List.any_append, free, Bool.false_or, Bool.not_eq_true']
    simp [ready, Diagnostic.isError]

theorem not_isDeployable_iff :
    (v.validate p c).isDeployable = false ↔
      ∃ d ∈ v.findings p c, (v.policy.apply d).severity = .error := by
  rw [← Bool.not_eq_true, isDeployable_iff]
  simp [Diagnostic.isError]

theorem isDeployable_of_clean
    (clean : Validation.limits p v.limits ++ Validation.typeExistence p c ++
      Validation.acyclicity p ++ Validation.connectivity p c ++ Validation.requiredConfig p c ++
      Validation.recommendedConfig p c ++ Validation.targetReachability p c = []) :
    (v.validate p c).isDeployable := by
  simp only [List.append_eq_nil_iff] at clean
  apply isDeployable_iff.mpr
  intro d found
  rw [mem_findings] at found
  simp [clean] at found

/-- No policy makes a pipeline deployable in which a blocking rule found an error. -/
theorem severity_ne_error (deployable : (v.validate p c).isDeployable) {d : Diagnostic}
    (found : d ∈ v.findings p c) (blocking : d.rule.isBlocking) : d.severity ≠ .error := by
  intro error
  have passes := isDeployable_iff.mp deployable d found
  rw [v.policy.apply_of_blocking error blocking] at passes
  simp [Diagnostic.isError, error] at passes

end Validator

namespace Validation

theorem mem_resolved {node : Node} {type : NodeType} :
    (node, type) ∈ resolved p c ↔ node ∈ p.nodeList ∧ c.get? node.type = some type := by
  simp only [resolved, List.mem_filterMap, Option.map_eq_some_iff, Prod.mk.injEq]
  constructor
  · rintro ⟨other, member, found, registered, rfl, rfl⟩
    exact ⟨member, registered⟩
  · rintro ⟨member, registered⟩
    exact ⟨node, member, type, registered, rfl, rfl⟩

theorem severity_valueFinding? {node : Node} {type : NodeType} {name : String}
    {value : ConfigValue} {d : Diagnostic} (found : valueFinding? node type name value = some d) :
    d.severity = .error ∧ d.rule = .requiredConfig := by
  unfold valueFinding? at found
  split at found
  · cases found
    exact ⟨rfl, rfl⟩
  · split at found
    · cases found
    · obtain ⟨_, _, rfl⟩ := Option.map_eq_some_iff.mp found
      exact ⟨rfl, rfl⟩

theorem node_of_valueFinding? {node : Node} {type : NodeType} {name : String}
    {value : ConfigValue} {d : Diagnostic} (found : valueFinding? node type name value = some d) :
    d.node = some node.id := by
  unfold valueFinding? at found
  split at found
  · cases found
    rfl
  · split at found
    · cases found
    · obtain ⟨_, _, rfl⟩ := Option.map_eq_some_iff.1 found
      rfl

theorem severity_fieldFindings {node : Node} {type : NodeType} {d : Diagnostic}
    (found : d ∈ fieldFindings node type) : d.severity = .error ∧ d.rule = .requiredConfig := by
  rcases List.mem_append.mp found with missing | bad
  · obtain ⟨_, _, rfl⟩ := List.mem_map.mp missing
    exact ⟨rfl, rfl⟩
  · obtain ⟨_, _, bad⟩ := List.mem_filterMap.mp bad
    exact severity_valueFinding? bad

theorem severity_requiredConfigOf {node : Node} {type : NodeType} {d : Diagnostic}
    (found : d ∈ requiredConfigOf node type) : d.severity = .error ∧ d.rule = .requiredConfig := by
  unfold requiredConfigOf at found
  split at found
  · split at found
    · cases found
    · cases List.mem_singleton.mp found
      exact ⟨rfl, rfl⟩
  · exact severity_fieldFindings found

/-- Nothing is found about a configuration exactly if each value fits its field, none is missing and
the settings can be made. -/
theorem requiredConfigOf_eq_nil {node : Node} {type : NodeType} :
    requiredConfigOf node type = [] ↔
      fieldFindings node type = [] ∧ ∃ settings, Settings.project node type = .ok settings := by
  unfold requiredConfigOf
  split
  next clean =>
    cases projected : Settings.project node type with
    | ok settings => simp [clean]
    | error fault => simp
  next dirty => exact iff_of_false dirty fun both => dirty both.1

theorem isOnCycle_iff (h : p.WellFormed) {id : NodeId} :
    isOnCycle p id ↔ Relation.TransGen p.Follows id id := by
  rw [Relation.TransGen.head'_iff]
  simp only [isOnCycle, List.any_eq_true]
  exact exists_congr fun next => and_congr_right fun _ => Pipeline.canReach_iff h

/-- A cycle keeps the nodes from being ordered only together with a finding about one of them. -/
theorem exists_mem_acyclicity (h : p.WellFormed) {fault : Error}
    (failed : p.order = .error fault) : ∃ d ∈ acyclicity p, d.severity = .error ∧
      d.rule = .acyclicity := by
  obtain ⟨id, cycle⟩ := Pipeline.exists_cycle_of_order_eq_error h failed
  obtain ⟨next, edge, _⟩ := Relation.TransGen.head'_iff.mp cycle
  obtain ⟨node, found⟩ := Pipeline.containsNode_iff.mp (h.containsNode_of_mem_successors edge).1
  have key : node.id = id := h.keyed found
  have visited : node ∈ p.nodeList := Pipeline.mem_nodeList.mpr ⟨id, found⟩
  have blamed : isOnCycle p node.id := (isOnCycle_iff h).mpr (by rw [key]; exact cycle)
  simp only [acyclicity, failed]
  exact ⟨_, List.mem_map.mpr ⟨node, List.mem_filter.mpr ⟨visited, blamed⟩, rfl⟩, rfl, rfl⟩

end Validation

section Deployable

variable (deployable : (v.validate p c).isDeployable)

include deployable

theorem registered_of_deployable {node : Node} (visited : node ∈ p.nodeList) :
    ∃ type, c.get? node.type = some type := by
  by_contra unknown
  have missing : c.contains node.type = false := by
    cases known : c.contains node.type
    · rfl
    · exact absurd (SortedMap.contains_iff.mp known) unknown
  have found : Diagnostic.about .error .typeExistence node.id
      ("node " ++ node.id ++ " references unknown type '" ++ node.type ++ "'") ∈
        Validation.typeExistence p c :=
    List.mem_map.mpr ⟨node, List.mem_filter.mpr ⟨visited, by simp [missing]⟩, rfl⟩
  exact Validator.severity_ne_error deployable (Validator.mem_findings.mpr (.inr (.inl found))) rfl
    rfl

/-- Nothing is found about the configurations in a deployable pipeline. -/
theorem requiredConfigOf_eq_nil_of_deployable {node : Node} {type : NodeType}
    (visited : node ∈ p.nodeList) (registered : c.get? node.type = some type) :
    Validation.requiredConfigOf node type = [] := by
  refine List.eq_nil_iff_forall_not_mem.mpr fun d member => ?_
  obtain ⟨error, rule⟩ := Validation.severity_requiredConfigOf member
  have found : d ∈ Validation.requiredConfig p c :=
    List.mem_flatMap.mpr ⟨(node, type), Validation.mem_resolved.mpr ⟨visited, registered⟩, member⟩
  refine Validator.severity_ne_error deployable (Validator.mem_findings.mpr ?_) (rule ▸ rfl) error
  exact .inr (.inr (.inr (.inr (.inl found))))

theorem projected_of_deployable {node : Node} {type : NodeType} (visited : node ∈ p.nodeList)
    (registered : c.get? node.type = some type) :
    ∃ settings, Settings.project node type = .ok settings :=
  (Validation.requiredConfigOf_eq_nil.mp
    (requiredConfigOf_eq_nil_of_deployable deployable visited registered)).2

theorem ordered_of_deployable (h : p.WellFormed) : ∃ ids, p.order = .ok ids := by
  cases ordered : p.order with
  | ok ids => exact ⟨ids, rfl⟩
  | error fault =>
      obtain ⟨d, found, error, rule⟩ := Validation.exists_mem_acyclicity h ordered
      apply absurd error
      refine Validator.severity_ne_error deployable (Validator.mem_findings.mpr ?_) ?_
      · exact .inr (.inr (.inl found))
      · rw [rule]
        rfl

end Deployable

end Etl
