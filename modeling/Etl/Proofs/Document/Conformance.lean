import Etl.Proofs.Document.Cache
import Etl.Proofs.Document.Cycles
import Etl.Proofs.Pipeline.Conformance
import Etl.Proofs.Validation.Policy

/-!
Documents that start empty keep to their catalog. What an edit is checked for and what validation
looks for are written apart from each other; over any row of calls they agree, and validation of
such a document has nothing left to report about types, cycles or the values of fields.
-/

namespace Etl

namespace Session

variable {s : Session}

/-- The pipeline conforms to the catalog of its document. -/
def Conforming (s : Session) : Prop :=
  s.document.pipeline.Conforms s.document.compiler.catalog

theorem Served.conforming {call : Call} {answer : Except Error Answer} {t : Session}
    (done : s.Served call answer t) (h : s.Conforming) : t.Conforming := by
  cases done with
  | edited _ _ checked performed => exact Edit.conforms_of_perform h checked performed
  | refused | recalled | compiled | begun | missed | reported | seen => exact h

end Session

namespace Session

/-- However a new document is edited, its nodes have registered types and the values that these
accept, its edges close no cycle, and validation finds nothing about types and cycles, and about the
configuration only required fields without a value and settings that cannot be made. -/
theorem run_conforms (compiler : Compiler) (id : PipelineId) (name : String) (calls : List Call) :
    let d := ((start (.new compiler id name)).run calls).document
    d.pipeline.Conforms compiler.catalog ∧ d.pipeline.Acyclic ∧
      ∀ entry ∈ d.validate.diagnostics,
        entry.rule ≠ .typeExistence ∧ entry.rule ≠ .acyclicity ∧
          (entry.rule = .requiredConfig → ∃ node ∈ d.pipeline.nodeList, ∃ type,
            compiler.catalog.get? node.type = some type ∧
              Validation.IsGap node type entry) := by
  intro d
  have initial : (Document.new compiler id name).Initial := .new ..
  have h : d.pipeline.WellFormed :=
    (run_reachable (s := start (.new compiler id name)) initial.reachable calls).wellFormed
  have same : d.compiler = compiler :=
    run_compiler (s := start (.new compiler id name)) initial.reachable calls
  have conforming : ((start (.new compiler id name)).run calls).Conforming :=
    run_invariant initial.reachable (Pipeline.empty_conforms id name)
      (fun _ done now => done.conforming now) calls
  have conforms : d.pipeline.Conforms compiler.catalog := same ▸ conforming
  have acyclic : d.pipeline.Acyclic := fun c cycle =>
    Pipeline.empty_acyclic id name c
      (run_isCycle (s := start (.new compiler id name)) initial.reachable calls c cycle)
  refine ⟨conforms, acyclic, fun entry reported => ?_⟩
  rw [Document.validate, same] at reported
  have found {r : Rule} (other : r ≠ .readiness) :=
    Validator.exists_foundBy_of_mem_diagnostics other reported
  refine ⟨fun rule => ?_, fun rule => ?_, fun rule => ?_⟩
  · obtain ⟨_, member, _⟩ := found (by decide) rule
    rw [Validator.foundBy, Validation.typeExistence_of_conforms conforms] at member
    cases member
  · obtain ⟨_, member, _⟩ := found (by decide) rule
    rw [Validator.foundBy, Validation.acyclicity_of_acyclic h acyclic] at member
    cases member
  · -- What this rule finds are errors, which no policy changes.
    obtain ⟨plain, member, rfl⟩ := found (by decide) rule
    obtain ⟨required, severity⟩ := Validation.foundBy_requiredConfig member
    have error : plain.severity = .error := List.mem_singleton.mp severity
    rw [Policy.apply_of_blocking _ error (required ▸ rfl)]
    exact Validation.exists_isGap_of_conforms conforms member

end Session

end Etl
