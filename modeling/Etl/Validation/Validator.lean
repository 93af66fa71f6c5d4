import Etl.Validation.Checks
import Etl.Validation.Report

/-!
Validation: all rules in order, each with its findings sorted by node, then the severities of the
policy, and a last entry that says a pipeline is ready when nothing blocks it.
-/

namespace Etl

structure Validator where
  limits : Limits
  policy : Policy

namespace Validator

/-- The validator with standard limits and no policy. -/
def standard : Validator := ⟨.standard, .empty⟩

instance : Inhabited Validator := ⟨standard⟩

/-- Whether one finding may stand before another of the same rule: those about the pipeline come
first, then nodes in order. -/
def comesBefore (a b : Diagnostic) : Bool :=
  match a.node, b.node with
  | none, _ => true
  | some _, none => false
  | some a, some b => (compare a b).isLE

/-- The findings of all rules before the policy is applied. -/
def findings (v : Validator) (p : Pipeline) (c : Catalog) : List Diagnostic :=
  Validation.limits p v.limits ++
    ([Validation.typeExistence p c, Validation.acyclicity p, Validation.connectivity p c,
      Validation.requiredConfig p c, Validation.recommendedConfig p c,
      Validation.targetReachability p c].flatMap fun found => found.mergeSort comesBefore)

/-- The entry of a deployable pipeline. -/
def ready : Diagnostic := ⟨.info, .readiness, "pipeline is ready to run", none⟩

def validate (v : Validator) (p : Pipeline) (c : Catalog) : Report :=
  let found := (v.findings p c).map v.policy.apply
  if found.any (·.isError) then ⟨found⟩ else ⟨found ++ [ready]⟩

end Validator

end Etl
