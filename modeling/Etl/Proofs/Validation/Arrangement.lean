import Etl.Proofs.Validation.Policy

/-!
The order of a report. Each rule sorts its own findings by node and the rules come one after the
other, so the whole report is sorted, with the readiness entry last. A policy changes severities
only, which have no part in the order. The nodes are visited in ascending order, so where they stand
under their own identifiers there is nothing left to sort.
-/

namespace Etl

open Std

variable {p : Pipeline} {c : Catalog} {v : Validator}

namespace Rule

/-- The rules are listed in the order of reports. -/
theorem all_pairwise : all.Pairwise fun r s => r.rank < s.rank := by
  decide

theorem rank_lt_readiness {r : Rule} (other : r ≠ readiness) : r.rank < readiness.rank := by
  cases r <;> first | decide | exact absurd rfl other

end Rule

namespace Diagnostic

/-- One entry may stand before another: its rule is an earlier one, or the rule is the same and the
entry is about the pipeline, or both are about nodes and these do not descend. -/
inductive Precedes (a b : Diagnostic) : Prop
  | rule (earlier : a.rule.rank < b.rule.rank)
  | pipeline (same : a.rule = b.rule) (whole : a.node = none)
  | node {m n : NodeId} (same : a.rule = b.rule) (left : a.node = some m) (right : b.node = some n)
      (order : (compare m n).isLE)

variable {a b : Diagnostic}

theorem Precedes.apply (policy : Policy) (h : a.Precedes b) :
    (policy.apply a).Precedes (policy.apply b) := by
  cases h with
  | rule earlier => exact .rule (by rwa [policy.rule_apply, policy.rule_apply])
  | pipeline same whole =>
      exact .pipeline (by rwa [policy.rule_apply, policy.rule_apply]) (by rwa [policy.node_apply])
  | node same left right order =>
      exact .node (by rwa [policy.rule_apply, policy.rule_apply]) (by rwa [policy.node_apply])
        (by rwa [policy.node_apply]) order

end Diagnostic

namespace Validator

variable {a b d : Diagnostic}

theorem comesBefore_eq (a b : Diagnostic) : comesBefore a b = (compare a.node b.node).isLE := by
  unfold comesBefore
  cases a.node <;> cases b.node <;> rfl

theorem pairwise_mergeSort_comesBefore (found : List Diagnostic) :
    (found.mergeSort comesBefore).Pairwise fun a b => comesBefore a b := by
  apply List.pairwise_mergeSort
  · intro a b d first second
    rw [comesBefore_eq] at *
    exact TransCmp.isLE_trans first second
  · intro a b
    have swap : compare a.node b.node = (compare b.node a.node).swap := OrientedCmp.eq_swap
    rw [comesBefore_eq, comesBefore_eq, swap]
    cases compare b.node a.node <;> rfl

theorem precedes_of_comesBefore (same : a.rule = b.rule) (h : comesBefore a b) : a.Precedes b := by
  unfold comesBefore at h
  split at h
  next whole => exact .pipeline same whole
  next => cases h
  next left right => exact .node same left right h

/-- What the rules find is sorted as a whole. -/
theorem findings_pairwise (v : Validator) (p : Pipeline) (c : Catalog) :
    (v.findings p c).Pairwise Diagnostic.Precedes := by
  have named : ∀ {r}, ∀ d ∈ (v.foundBy p c r).mergeSort comesBefore, d.rule = r :=
    fun d found => (foundBy_sound (List.mem_mergeSort.mp found)).1
  rw [findings_eq_flatMap, List.pairwise_flatMap]
  constructor
  · intro r _
    refine (pairwise_mergeSort_comesBefore (v.foundBy p c r)).imp_of_mem ?_
    intro a b left right before
    exact precedes_of_comesBefore ((named a left).trans (named b right).symm) before
  · refine Rule.all_pairwise.imp fun {r s} earlier a left b right => .rule ?_
    rwa [named a left, named b right]

theorem diagnostics_eq_entries (v : Validator) (p : Pipeline) (c : Catalog) :
    (v.validate p c).diagnostics =
      (v.validate p c).entries ++ if (v.validate p c).isDeployable then [ready] else [] := by
  rw [entries_validate]
  exact diagnostics_validate v p c

theorem rule_ne_of_mem_entries {report : Report} (member : d ∈ report.entries) :
    d.rule ≠ .readiness := by
  simpa using (List.mem_filter.mp member).2

theorem exists_readiness_iff :
    (∃ d ∈ (v.validate p c).diagnostics, d.rule = .readiness) ↔ (v.validate p c).isDeployable := by
  rw [diagnostics_eq_entries]
  constructor
  · rintro ⟨d, member, readiness⟩
    rcases List.mem_append.mp member with entry | last
    · exact absurd readiness (rule_ne_of_mem_entries entry)
    · split at last
      next deployable => exact deployable
      next => cases last
  · intro deployable
    exact ⟨ready, by simp [deployable], rfl⟩

theorem diagnostics_pairwise (v : Validator) (p : Pipeline) (c : Catalog) :
    (v.validate p c).diagnostics.Pairwise Diagnostic.Precedes := by
  rw [diagnostics_eq_entries, List.pairwise_append]
  refine ⟨?_, ?_, fun a entry b last => .rule ?_⟩
  · rw [entries_validate]
    exact (findings_pairwise v p c).map _ fun _ _ before => before.apply v.policy
  · split <;> simp
  · split at last
    · rw [List.mem_singleton.mp last]
      exact Rule.rank_lt_readiness (rule_ne_of_mem_entries entry)
    · cases last

/-- Every report is sorted by rule, then by node with the entries about the pipeline first. It has a
readiness entry exactly if no entry is an error. There is then one such entry, an information about
the pipeline that stands at the end, and the report is handed on exactly if it has this entry. No
limits and no policy change any of this, not even a policy for readiness. -/
theorem validate_arranged (v : Validator) (p : Pipeline) (c : Catalog) :
    let report := v.validate p c
    let announced := ∃ d ∈ report.diagnostics, d.rule = .readiness
    report.diagnostics.Pairwise Diagnostic.Precedes ∧
      (announced ↔ ∀ d ∈ report.diagnostics, d.severity ≠ .error) ∧
      (announced → ∃ before last, report.diagnostics = before ++ [last] ∧
        last.rule = .readiness ∧ last.severity = .info ∧ last.node = none ∧
        ∀ d ∈ before, d.rule ≠ .readiness) ∧
      (report.toResult = .ok report ↔ announced) ∧
      (report.toResult = .error (.notDeployable report.diagnostics) ↔ ¬ announced) := by
  intro report announced
  have announces : announced ↔ report.isDeployable := exists_readiness_iff
  refine ⟨diagnostics_pairwise v p c, ?_, fun present => ?_, ?_, ?_⟩
  · rw [announces, Report.isDeployable]
    simp [Diagnostic.isError]
  · refine ⟨report.entries, ready, ?_, rfl, rfl, rfl, fun d => rule_ne_of_mem_entries⟩
    rw [diagnostics_eq_entries, if_pos (announces.mp present)]
  · rw [announces, Report.toResult]
    simp
  · rw [announces, Report.toResult]
    simp

end Validator

section Visits

variable (h : p.WellFormed)

include h

theorem Pipeline.nodeList_pairwise : p.nodeList.Pairwise fun a b => compare a.id b.id = .lt := by
  have ids := p.nodes.keys_pairwise
  rwa [← h.map_id_nodeList, List.pairwise_map] at ids

namespace Validation

theorem resolved_pairwise (c : Catalog) :
    (resolved p c).Pairwise fun a b => compare a.1.id b.1.id = .lt := by
  refine (Pipeline.nodeList_pairwise h).filterMap _ fun a b before x left y right => ?_
  obtain ⟨_, _, rfl⟩ := Option.map_eq_some_iff.mp left
  obtain ⟨_, _, rfl⟩ := Option.map_eq_some_iff.mp right
  exact before

omit h in
/-- Whoever visits nodes in ascending order and speaks about each in its turn speaks in order. -/
theorem mergeSort_flatMap_about {α : Type} {visited : List α} {id : α → NodeId}
    {say : α → List Diagnostic} (ascending : visited.Pairwise fun a b => compare (id a) (id b) = .lt)
    (about : ∀ a, ∀ d ∈ say a, d.node = some (id a)) :
    (visited.flatMap say).mergeSort Validator.comesBefore = visited.flatMap say := by
  apply List.mergeSort_of_pairwise
  rw [List.pairwise_flatMap]
  constructor
  · intro a _
    refine List.pairwise_of_forall_mem_list fun d left e right => ?_
    simp [Validator.comesBefore, about a d left, about a e right, ReflCmp.compare_self]
  · refine ascending.imp fun {a b} before d left e right => ?_
    simp [Validator.comesBefore, about a d left, about b e right, before]

end Validation

namespace Validator

open Validation

/-- Sorting the findings of a rule changes nothing. -/
theorem mergeSort_foundBy (v : Validator) (c : Catalog) (r : Rule) :
    (v.foundBy p c r).mergeSort comesBefore = v.foundBy p c r := by
  have nodes := Pipeline.nodeList_pairwise h
  have pairs := resolved_pairwise h c
  cases r with
  | limits => exact mergeSort_limits p v.limits
  | typeExistence =>
      simp only [foundBy, typeExistence, List.map_eq_flatMap]
      exact mergeSort_flatMap_about (nodes.filter _) fun a d said => by
        rw [List.mem_singleton.mp said]
        rfl
  | acyclicity =>
      simp only [foundBy, acyclicity, List.map_eq_flatMap]
      split
      · exact List.mergeSort_nil
      · exact mergeSort_flatMap_about (nodes.filter _) fun a d said => by
          rw [List.mem_singleton.mp said]
          rfl
  | connectivity => exact mergeSort_flatMap_about pairs fun a d => node_of_mem_connectivityOf
  | requiredConfig => exact mergeSort_flatMap_about pairs fun a d => node_of_mem_requiredConfigOf
  | recommendedConfig =>
      exact mergeSort_flatMap_about pairs fun a d => node_of_mem_recommendedConfigOf
  | targetReachability =>
      simp only [foundBy, targetReachability, List.map_eq_flatMap]
      exact mergeSort_flatMap_about (pairs.filter _) fun a d said => by
        rw [List.mem_singleton.mp said]
        rfl
  | readiness => exact List.mergeSort_nil

theorem findings_eq (v : Validator) (c : Catalog) :
    v.findings p c = Rule.all.flatMap (v.foundBy p c) := by
  rw [findings_eq_flatMap]
  exact List.flatMap_congr fun r _ => mergeSort_foundBy h v c r

/-- The entries of a report under one rule are what the rule found, in the order in which it found
it and with the severities of the policy. -/
theorem filter_rule_validate (v : Validator) (c : Catalog) {r : Rule} (other : r ≠ .readiness) :
    (v.validate p c).diagnostics.filter (·.rule == r) = (v.foundBy p c r).map v.policy.apply := by
  have blind : ∀ d, ((v.policy.apply d).rule == r) = (d.rule == r) := fun d => by
    rw [v.policy.rule_apply]
  have last : (if (v.validate p c).isDeployable then [ready] else []).filter (·.rule == r) = [] := by
    split
    · simp [ready, other.symm]
    · rfl
  rw [diagnostics_validate, List.filter_append, v.policy.filter_map_apply blind,
    filter_rule_findings, last, List.append_nil, mergeSort_foundBy h]

end Validator

end Visits

end Etl
