import Etl.Proofs.Validation.Findings

/-!
Reports under a policy. A policy changes the severities of a report entry by entry and leaves
everything else of it alone, and it has no say in whether the readiness entry is added but through
the errors. All errors come from blocking rules, which a policy cannot weaken, so no policy unblocks
a pipeline.
-/

namespace Etl

/-- The entries of a report other than its readiness entry. -/
def Report.entries (r : Report) : List Diagnostic :=
  r.diagnostics.filter fun d => d.rule != .readiness

/-- The same finding with a severity of its own. Information stays information, and an error stays
an error. -/
structure Diagnostic.Relabelled (plain labelled : Diagnostic) : Prop where
  rule : labelled.rule = plain.rule
  message : labelled.message = plain.message
  node : labelled.node = plain.node
  info : plain.severity = .info → labelled.severity = .info
  error : plain.severity = .error → labelled.severity = .error

namespace Policy

variable (policy : Policy) {d : Diagnostic}

theorem apply_empty (d : Diagnostic) : empty.apply d = d := by
  unfold apply severityFor empty
  simp

theorem apply_of_info (info : d.severity = .info) : policy.apply d = d := by
  simp [apply, info]

theorem rule_apply (d : Diagnostic) : (policy.apply d).rule = d.rule := by
  unfold apply
  split
  · rfl
  · split <;> rfl

theorem message_apply (d : Diagnostic) : (policy.apply d).message = d.message := by
  unfold apply
  split
  · rfl
  · split <;> rfl

theorem node_apply (d : Diagnostic) : (policy.apply d).node = d.node := by
  unfold apply
  split
  · rfl
  · split <;> rfl

/-- What reads rules and nodes only tells the same before and after a policy. -/
theorem filter_map_apply {keep : Diagnostic → Bool} (blind : ∀ d, keep (policy.apply d) = keep d)
    (found : List Diagnostic) :
    (found.map policy.apply).filter keep = (found.filter keep).map policy.apply := by
  rw [List.filter_map]
  exact congrArg (fun keep => (found.filter keep).map policy.apply) (funext blind)

theorem relabelled_apply (blocking : d.severity = .error → d.rule.isBlocking) :
    d.Relabelled (policy.apply d) where
  rule := policy.rule_apply d
  message := policy.message_apply d
  node := policy.node_apply d
  info info := by rw [policy.apply_of_info info, info]
  error error := by rw [policy.apply_of_blocking error (blocking error), error]

end Policy

namespace Validator

/-- What a report says under a rule, the rule found. -/
theorem exists_foundBy_of_mem_diagnostics {p : Pipeline} {c : Catalog} {v : Validator}
    {d : Diagnostic} {r : Rule} (other : r ≠ .readiness)
    (reported : d ∈ (v.validate p c).diagnostics) (rule : d.rule = r) :
    ∃ found ∈ v.foundBy p c r, d = v.policy.apply found := by
  rcases mem_diagnostics reported with rfl | ⟨found, member, rfl⟩
  · exact absurd rule.symm other
  · rw [v.policy.rule_apply] at rule
    exact ⟨found, rule ▸ mem_findings_iff_foundBy.mp member, rfl⟩

theorem entries_validate (v : Validator) (p : Pipeline) (c : Catalog) :
    (v.validate p c).entries = (v.findings p c).map v.policy.apply := by
  have kept : ∀ d ∈ (v.findings p c).map v.policy.apply, (d.rule != .readiness) = true := by
    intro d applied
    obtain ⟨found, member, rfl⟩ := List.mem_map.mp applied
    simpa [v.policy.rule_apply] using rule_ne_readiness member
  rw [Report.entries, diagnostics_validate, List.filter_append, List.filter_eq_self.mpr kept]
  split <;> simp [ready]

/-- A policy relabels. The report under it has the entries of the report without a policy, in the
same order and with only their severities changed, where information stays information and an error
an error. Beside them stands at most the readiness entry, and a pipeline that is not deployable
without a policy is not deployable under one. -/
theorem validate_relabelled (limits : Limits) (policy : Policy) (p : Pipeline) (c : Catalog) :
    let plain := validate ⟨limits, .empty⟩ p c
    let labelled := validate ⟨limits, policy⟩ p c
    List.Forall₂ Diagnostic.Relabelled plain.entries labelled.entries ∧
      (∀ r ∈ [plain, labelled],
        r.diagnostics = r.entries ++ if r.isDeployable then [ready] else []) ∧
      (plain.isDeployable = false → labelled.isDeployable = false) := by
  intro plain labelled
  let v : Validator := ⟨limits, .empty⟩
  have bare : plain.entries = v.findings p c := by
    rw [entries_validate]
    exact (List.map_congr_left fun d _ => Policy.apply_empty d).trans (List.map_id _)
  have applied : labelled.entries = (v.findings p c).map policy.apply := entries_validate ..
  have relabelled : List.Forall₂ Diagnostic.Relabelled plain.entries labelled.entries := by
    rw [bare, applied, List.forall₂_map_right_iff, List.forall₂_same]
    exact fun d found => policy.relabelled_apply (isBlocking_of_mem_findings found)
  refine ⟨relabelled, fun r member => ?_, fun blocked => ?_⟩
  · rcases List.mem_pair.mp member with rfl | rfl
    · rw [entries_validate, diagnostics_validate]
    · rw [entries_validate, diagnostics_validate]
  · obtain ⟨d, found, error⟩ := not_isDeployable_iff.mp blocked
    rw [Policy.apply_empty] at error
    have still := (policy.relabelled_apply (isBlocking_of_mem_findings found)).error error
    exact not_isDeployable_iff.mpr ⟨d, found, still⟩

end Validator

end Etl
