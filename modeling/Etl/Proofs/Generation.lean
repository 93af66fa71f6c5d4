import Etl.Catalog.Standard
import Etl.Compiler
import Etl.Proofs.Sql.Plan
import Etl.Proofs.Validation.Deployable

/-!
Generation succeeds exactly for deployable pipelines. A deployable report rules out every fault that
planning a script can meet, so the check of the report is the only place where generation can fail.
-/

namespace Etl.Compiler

variable (c : Compiler) {p : Pipeline}

/-- Every part of the plan of a deployable pipeline is there: the order, and the node, its type and
its settings at each place of the order. -/
theorem parts_of_deployable (h : p.WellFormed)
    (deployable : (c.validator.validate p c.catalog).isDeployable) :
    ∃ ids, p.order = .ok ids ∧ ∀ id ∈ ids, ∃ node type settings,
      p.requireNode id = .ok node ∧ c.catalog.lookup node.type = .ok type ∧
        Settings.project node type = .ok settings := by
  obtain ⟨ids, ordered⟩ := ordered_of_deployable deployable h
  refine ⟨ids, ordered, fun id member => ?_⟩
  have present := ((Pipeline.order_eq_ok h ordered).2.1 id).mp member
  obtain ⟨node, found⟩ := Pipeline.containsNode_iff.mp present
  have visited : node ∈ p.nodeList := Pipeline.mem_nodeList.mpr ⟨id, found⟩
  obtain ⟨type, registered⟩ := registered_of_deployable deployable visited
  obtain ⟨settings, projected⟩ := projected_of_deployable deployable visited registered
  exact ⟨node, type, settings, Pipeline.requireNode_eq_ok.mpr found,
    Catalog.lookup_eq_ok.mpr registered, projected⟩

theorem exists_emit_of_deployable (h : p.WellFormed)
    (deployable : (c.validator.validate p c.catalog).isDeployable) (kind : ArtifactKind) :
    ∃ text, c.emit p kind = .ok text := by
  cases kind with
  | json => exact ⟨p.canonicalText, rfl⟩
  | sql =>
      obtain ⟨ids, ordered, each⟩ := c.parts_of_deployable h deployable
      obtain ⟨script, planned⟩ := Sql.exists_plan ordered each
      exact ⟨script.render, Results.map_eq_ok.mpr ⟨script, planned, rfl⟩⟩

theorem generate_of_deployable (deployable : (c.validator.validate p c.catalog).isDeployable)
    (kind : ArtifactKind) : c.generate p kind = c.emit p kind := by
  simp [generate, deployable]

theorem generate_of_not_deployable
    (blocked : (c.validator.validate p c.catalog).isDeployable = false) (kind : ArtifactKind) :
    c.generate p kind = .error (.notDeployable (c.validator.validate p c.catalog).diagnostics) := by
  simp [generate, blocked]

theorem isDeployable_of_generate {kind : ArtifactKind} {text : String}
    (generated : c.generate p kind = .ok text) :
    (c.validator.validate p c.catalog).isDeployable := by
  by_contra blocked
  rw [c.generate_of_not_deployable (by simpa using blocked)] at generated
  cases generated

theorem exists_generate_of_clean (h : p.WellFormed)
    (clean : Validation.limits p c.validator.limits ++ Validation.typeExistence p c.catalog ++
      Validation.acyclicity p ++ Validation.connectivity p c.catalog ++
      Validation.requiredConfig p c.catalog ++ Validation.recommendedConfig p c.catalog ++
      Validation.targetReachability p c.catalog = []) (kind : ArtifactKind) :
    ∃ text, c.generate p kind = .ok text := by
  have deployable := Validator.isDeployable_of_clean clean
  rw [c.generate_of_deployable deployable kind]
  exact c.exists_emit_of_deployable h deployable kind

/-- A generated text is the rendered plan. -/
theorem exists_plan_of_generate {text : String} (generated : c.generate p .sql = .ok text) :
    ∃ script, Sql.plan p c.catalog = .ok script ∧ text = script.render := by
  simp only [generate] at generated
  split at generated
  · obtain ⟨script, planned, rfl⟩ := Results.map_eq_ok.mp generated
    exact ⟨script, planned, rfl⟩
  · cases generated

/-- Validation is sound and complete for generation. A text comes out exactly when the report is
deployable; otherwise the error carries the diagnostics of the report; and behind a deployable
report there is no place left where planning or emitting could fail. -/
theorem generate_ok_iff_deployable (h : p.Reachable) (kind : ArtifactKind) :
    let report := c.validator.validate p c.catalog
    ((∃ text, c.generate p kind = .ok text) ↔ report.isDeployable = true) ∧
      (report.isDeployable = false →
        c.generate p kind = .error (.notDeployable report.diagnostics)) ∧
      (report.isDeployable = true →
        (∃ text, c.emit p kind = .ok text) ∧
          ∃ ids, p.order = .ok ids ∧ ∀ id ∈ ids, ∃ node type settings,
            p.requireNode id = .ok node ∧ c.catalog.lookup node.type = .ok type ∧
              Settings.project node type = .ok settings) := by
  intro report
  refine ⟨⟨?_, ?_⟩, ?_, ?_⟩
  · rintro ⟨text, generated⟩
    by_contra blocked
    rw [c.generate_of_not_deployable (by simpa using blocked) kind] at generated
    cases generated
  · intro deployable
    rw [c.generate_of_deployable deployable kind]
    exact c.exists_emit_of_deployable h.wellFormed deployable kind
  · exact fun blocked => c.generate_of_not_deployable blocked kind
  · exact fun deployable => ⟨c.exists_emit_of_deployable h.wellFormed deployable kind,
      c.parts_of_deployable h.wellFormed deployable⟩

/-- Two filters that read each other: nothing is generated, for the reasons the report gives. -/
theorem generate_eq_error_of_two_filters :
    let c : Compiler := ⟨Catalog.standard, default⟩
    ∃ p, Pipeline.ofDescriptor
        ⟨"p", "", [⟨"a", "transform-filter", "", SortedMap.empty⟩,
          ⟨"b", "transform-filter", "", SortedMap.empty⟩], [⟨"a", "b"⟩, ⟨"b", "a"⟩]⟩ = .ok p ∧
      c.generate p .sql =
        .error (.notDeployable (c.validator.validate p c.catalog).diagnostics) := by
  intro c
  obtain ⟨p, built⟩ : ∃ p, Pipeline.ofDescriptor
      ⟨"p", "", [⟨"a", "transform-filter", "", SortedMap.empty⟩,
        ⟨"b", "transform-filter", "", SortedMap.empty⟩], [⟨"a", "b"⟩, ⟨"b", "a"⟩]⟩ = .ok p :=
    ⟨_, rfl⟩
  obtain ⟨_, blocked, sound⟩ := c.generate_ok_iff_deployable (.loaded built) .sql
  refine ⟨p, built, blocked ?_⟩
  by_contra deployable
  obtain ⟨_, ids, ordered, _⟩ := sound (by simpa using deployable)
  have cyclic : p.order.toOption = none := by
    cases built
    decide +kernel
  rw [ordered] at cyclic
  cases cyclic

end Etl.Compiler
