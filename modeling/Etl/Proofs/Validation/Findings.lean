import Etl.Proofs.Validation.Deployable

/-!
Findings by rule. Each rule says so in what it finds, and finds only entries of certain severities.
Errors come from blocking rules alone, and readiness is no rule that finds anything.
-/

namespace Etl

namespace Rule

/-- The severities of what a rule finds, before any policy. -/
def severities : Rule → List Severity
  | limits | typeExistence | acyclicity | requiredConfig => [.error]
  | connectivity => [.error, .info]
  | recommendedConfig | targetReachability => [.warning]
  | readiness => []

theorem isBlocking_of_error {r : Rule} (error : .error ∈ r.severities) : r.isBlocking := by
  cases r <;> first | rfl | exact absurd error (by decide)

end Rule

variable {p : Pipeline} {c : Catalog} {v : Validator} {d : Diagnostic}

namespace Diagnostic

/-- A rule found this, with a severity that the rule gives. -/
def FoundBy (r : Rule) (d : Diagnostic) : Prop := d.rule = r ∧ d.severity ∈ r.severities

end Diagnostic

namespace Validation

theorem foundBy_limits {l : Limits} (found : d ∈ limits p l) : d.FoundBy .limits := by
  rcases List.mem_append.mp found with nodes | edges
  · split at nodes
    · cases List.mem_singleton.mp nodes
      exact ⟨rfl, List.mem_cons_self⟩
    · cases nodes
  · split at edges
    · cases List.mem_singleton.mp edges
      exact ⟨rfl, List.mem_cons_self⟩
    · cases edges

/-- What is found about the limits is said about the pipeline. -/
theorem node_of_mem_limits {l : Limits} (found : d ∈ limits p l) : d.node = none := by
  rcases List.mem_append.mp found with found | found
  all_goals
    split at found
    · rw [List.mem_singleton.mp found]
    · cases found

theorem foundBy_typeExistence (found : d ∈ typeExistence p c) : d.FoundBy .typeExistence := by
  obtain ⟨_, _, rfl⟩ := List.mem_map.mp found
  exact ⟨rfl, List.mem_cons_self⟩

theorem foundBy_acyclicity (found : d ∈ acyclicity p) : d.FoundBy .acyclicity := by
  unfold acyclicity at found
  split at found
  · cases found
  · obtain ⟨_, _, rfl⟩ := List.mem_map.mp found
    exact ⟨rfl, List.mem_cons_self⟩

theorem foundBy_connectivityOf {node : Node} {type : NodeType}
    (found : d ∈ connectivityOf p node type) : d.FoundBy .connectivity := by
  rcases List.mem_append.mp found with incoming | outgoing
  · split at incoming
    · cases List.mem_singleton.mp incoming
      exact ⟨rfl, List.mem_cons_self⟩
    · cases incoming
  · split at outgoing
    · split at outgoing
      · cases List.mem_singleton.mp outgoing
        exact ⟨rfl, List.mem_cons_self⟩
      · cases List.mem_singleton.mp outgoing
        exact ⟨rfl, List.mem_cons_self⟩
      · cases List.mem_singleton.mp outgoing
        exact ⟨rfl, List.mem_cons_of_mem _ List.mem_cons_self⟩
      · cases outgoing
    · cases outgoing

/-- What is found about the edges of a node is said about that node. -/
theorem node_of_mem_connectivityOf {node : Node} {type : NodeType}
    (found : d ∈ connectivityOf p node type) : d.node = some node.id := by
  rcases List.mem_append.mp found with incoming | outgoing
  · split at incoming
    · rw [List.mem_singleton.mp incoming]
      rfl
    · cases incoming
  · split at outgoing
    · split at outgoing
      · rw [List.mem_singleton.mp outgoing]
        rfl
      · rw [List.mem_singleton.mp outgoing]
        rfl
      · rw [List.mem_singleton.mp outgoing]
        rfl
      · cases outgoing
    · cases outgoing

theorem foundBy_connectivity (found : d ∈ connectivity p c) : d.FoundBy .connectivity := by
  obtain ⟨_, _, found⟩ := List.mem_flatMap.mp found
  exact foundBy_connectivityOf found

theorem foundBy_requiredConfigOf {node : Node} {type : NodeType}
    (found : d ∈ requiredConfigOf node type) : d.FoundBy .requiredConfig := by
  obtain ⟨error, rule⟩ := severity_requiredConfigOf found
  exact ⟨rule, by simp [error, Rule.severities]⟩

/-- What is found in a node's configuration is said about that node. -/
theorem node_of_mem_requiredConfigOf {node : Node} {type : NodeType}
    (found : d ∈ requiredConfigOf node type) : d.node = some node.id := by
  unfold requiredConfigOf at found
  split at found
  · split at found
    · cases found
    · rw [List.mem_singleton.mp found]
      rfl
  · rcases List.mem_append.mp found with missing | bad
    · obtain ⟨_, _, rfl⟩ := List.mem_map.mp missing
      rfl
    · obtain ⟨_, _, bad⟩ := List.mem_filterMap.mp bad
      exact node_of_valueFinding? bad

theorem foundBy_requiredConfig (found : d ∈ requiredConfig p c) : d.FoundBy .requiredConfig := by
  obtain ⟨_, _, found⟩ := List.mem_flatMap.mp found
  exact foundBy_requiredConfigOf found

theorem foundBy_recommendedConfigOf {node : Node} {type : NodeType}
    (found : d ∈ recommendedConfigOf p c node type) : d.FoundBy .recommendedConfig := by
  unfold recommendedConfigOf at found
  split at found
  · split at found
    · cases found
    · cases List.mem_singleton.mp found
      exact ⟨rfl, List.mem_cons_self⟩
  · split at found
    · cases List.mem_singleton.mp found
      exact ⟨rfl, List.mem_cons_self⟩
    · cases found
  · cases found
  · cases found

/-- What is recommended about a node's configuration is said about that node. -/
theorem node_of_mem_recommendedConfigOf {node : Node} {type : NodeType}
    (found : d ∈ recommendedConfigOf p c node type) : d.node = some node.id := by
  unfold recommendedConfigOf at found
  split at found
  · split at found
    · cases found
    · rw [List.mem_singleton.mp found]
      rfl
  · split at found
    · rw [List.mem_singleton.mp found]
      rfl
    · cases found
  · cases found
  · cases found

theorem foundBy_recommendedConfig (found : d ∈ recommendedConfig p c) :
    d.FoundBy .recommendedConfig := by
  obtain ⟨_, _, found⟩ := List.mem_flatMap.mp found
  exact foundBy_recommendedConfigOf found

theorem foundBy_targetReachability (found : d ∈ targetReachability p c) :
    d.FoundBy .targetReachability := by
  obtain ⟨_, _, rfl⟩ := List.mem_map.mp found
  exact ⟨rfl, List.mem_cons_self⟩

end Validation

namespace Validator

/-- What one rule finds. -/
def foundBy (v : Validator) (p : Pipeline) (c : Catalog) : Rule → List Diagnostic
  | .limits => Validation.limits p v.limits
  | .typeExistence => Validation.typeExistence p c
  | .acyclicity => Validation.acyclicity p
  | .connectivity => Validation.connectivity p c
  | .requiredConfig => Validation.requiredConfig p c
  | .recommendedConfig => Validation.recommendedConfig p c
  | .targetReachability => Validation.targetReachability p c
  | .readiness => []

theorem foundBy_sound {r : Rule} (found : d ∈ v.foundBy p c r) : d.FoundBy r := by
  cases r with
  | limits => exact Validation.foundBy_limits found
  | typeExistence => exact Validation.foundBy_typeExistence found
  | acyclicity => exact Validation.foundBy_acyclicity found
  | connectivity => exact Validation.foundBy_connectivity found
  | requiredConfig => exact Validation.foundBy_requiredConfig found
  | recommendedConfig => exact Validation.foundBy_recommendedConfig found
  | targetReachability => exact Validation.foundBy_targetReachability found
  | readiness => cases found

theorem exists_mem_foundBy : d ∈ v.findings p c ↔ ∃ r, d ∈ v.foundBy p c r := by
  rw [mem_findings]
  constructor
  · rintro (found | found | found | found | found | found | found)
    · exact ⟨.limits, found⟩
    · exact ⟨.typeExistence, found⟩
    · exact ⟨.acyclicity, found⟩
    · exact ⟨.connectivity, found⟩
    · exact ⟨.requiredConfig, found⟩
    · exact ⟨.recommendedConfig, found⟩
    · exact ⟨.targetReachability, found⟩
  · rintro ⟨r, found⟩
    cases r <;> simp_all [foundBy]

/-- A finding was found by the rule that it names. -/
theorem mem_findings_iff_foundBy : d ∈ v.findings p c ↔ d ∈ v.foundBy p c d.rule := by
  rw [exists_mem_foundBy]
  constructor
  · rintro ⟨r, found⟩
    rw [(foundBy_sound found).1]
    exact found
  · exact fun found => ⟨d.rule, found⟩

theorem severity_mem_of_mem_findings (found : d ∈ v.findings p c) :
    d.severity ∈ d.rule.severities :=
  (foundBy_sound (mem_findings_iff_foundBy.mp found)).2

/-- Only blocking rules find errors. -/
theorem isBlocking_of_mem_findings (found : d ∈ v.findings p c) (error : d.severity = .error) :
    d.rule.isBlocking :=
  Rule.isBlocking_of_error (error ▸ severity_mem_of_mem_findings found)

theorem rule_ne_readiness (found : d ∈ v.findings p c) : d.rule ≠ .readiness := by
  intro readiness
  have severity := severity_mem_of_mem_findings found
  rw [readiness] at severity
  cases severity

/-- Both limits are about the pipeline, so their order is the one in which they are checked. -/
theorem mergeSort_limits (p : Pipeline) (l : Limits) :
    (Validation.limits p l).mergeSort comesBefore = Validation.limits p l := by
  refine List.mergeSort_of_pairwise (List.pairwise_of_forall_mem_list fun d found _ _ => ?_)
  simp [comesBefore, Validation.node_of_mem_limits found]

/-- The findings are those of one rule after the other, each sorted by node. -/
theorem findings_eq_flatMap (v : Validator) (p : Pipeline) (c : Catalog) :
    v.findings p c = Rule.all.flatMap fun r => (v.foundBy p c r).mergeSort comesBefore := by
  rw [findings, ← mergeSort_limits]
  simp [Rule.all, foundBy]

/-- The findings of one rule stand together, sorted by node. -/
theorem filter_rule_findings (v : Validator) (p : Pipeline) (c : Catalog) (r : Rule) :
    (v.findings p c).filter (·.rule == r) = (v.foundBy p c r).mergeSort comesBefore := by
  have block : ∀ r', ((v.foundBy p c r').mergeSort comesBefore).filter (·.rule == r) =
      if r' = r then (v.foundBy p c r').mergeSort comesBefore else [] := by
    intro r'
    have named : ∀ d ∈ (v.foundBy p c r').mergeSort comesBefore, d.rule = r' := fun d found =>
      (foundBy_sound (List.mem_mergeSort.mp found)).1
    split
    next same => exact List.filter_eq_self.mpr fun d found => by simp [named d found, same]
    next other => exact List.filter_eq_nil_iff.mpr fun d found => by simp [named d found, other]
  rw [findings_eq_flatMap, List.filter_flatMap]
  simp only [block]
  cases r <;> simp [Rule.all]

/-- A report has the findings under the policy, and a last entry where none of them is an error. -/
theorem diagnostics_validate (v : Validator) (p : Pipeline) (c : Catalog) :
    (v.validate p c).diagnostics = (v.findings p c).map v.policy.apply ++
      if (v.validate p c).isDeployable then [ready] else [] := by
  cases deployable : (v.validate p c).isDeployable with
  | true =>
      have free : ((v.findings p c).map v.policy.apply).any (·.isError) = false := by
        simpa using isDeployable_iff.mp deployable
      simp [validate, free]
  | false =>
      obtain ⟨d, found, error⟩ := not_isDeployable_iff.mp deployable
      have blocked : ((v.findings p c).map v.policy.apply).any (·.isError) = true :=
        List.any_eq_true.mpr ⟨_, List.mem_map_of_mem found, by simp [Diagnostic.isError, error]⟩
      simp [validate, blocked]

theorem apply_mem_diagnostics (found : d ∈ v.findings p c) :
    v.policy.apply d ∈ (v.validate p c).diagnostics := by
  rw [diagnostics_validate]
  exact List.mem_append_left _ (List.mem_map_of_mem found)

theorem mem_diagnostics (reported : d ∈ (v.validate p c).diagnostics) :
    d = ready ∨ ∃ found ∈ v.findings p c, d = v.policy.apply found := by
  rw [diagnostics_validate] at reported
  rcases List.mem_append.mp reported with applied | last
  · obtain ⟨found, member, rfl⟩ := List.mem_map.mp applied
    exact .inr ⟨found, member, rfl⟩
  · split at last
    · exact .inl (List.mem_singleton.mp last)
    · cases last

end Validator

end Etl
