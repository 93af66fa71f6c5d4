import Etl.Document.Session
import Etl.Proofs.Pipeline.History

/-!
Documents in place. An edit or a compilation in place does what the edit or compilation of the
document does, or it is refused and nothing was done.
-/

namespace Etl

open Results

theorem Edit.perform_operation (e : Edit) (p : Pipeline) :
    e.operation.perform p = e.perform p := by
  cases e <;> rfl

namespace Document

variable {d t : Document}

theorem apply_eq_ok {e : Edit} :
    d.apply e = .ok t ↔ e.check d.compiler.catalog d.pipeline = .ok () ∧
      ∃ q, e.perform d.pipeline = .ok q ∧
        t = { d with pipeline := q, version := d.version + 1, cache := .empty } := by
  constructor
  · intro applied
    obtain ⟨_, checked, rest⟩ := bind_eq_ok.mp applied
    obtain ⟨q, performed, whole⟩ := bind_eq_ok.mp rest
    exact ⟨checked, q, performed, (Except.ok.inj whole).symm⟩
  · rintro ⟨checked, q, performed, rfl⟩
    exact bind_eq_ok.mpr ⟨(), checked, bind_eq_ok.mpr ⟨q, performed, rfl⟩⟩

theorem applyAt_eq_ok {version : Nat} {e : Edit} :
    d.applyAt version e = .ok t ↔ d.version = version ∧ d.apply e = .ok t := by
  unfold applyAt
  by_cases current : d.version = version <;> simp [current]

theorem run_edit (h : d.pipeline.WellFormed) (e : Edit) :
    (edit e).run d = Work.settle d ((d.apply e).map fun t => (t.version, t)) := by
  have changed := Work.run_within (fun (d : Document) pipeline => { d with pipeline })
    (e.operation.run_change h) rfl
  rw [e.perform_operation] at changed
  unfold edit apply
  simp only [EStateM.run_bind, EStateM.run_get]
  cases e.check d.compiler.catalog d.pipeline with
  | error fault => rfl
  | ok _ =>
      simp only [Work.run_ofExcept_ok, changed, EStateM.run_modify, EStateM.run_pure]
      cases e.perform d.pipeline <;> rfl

theorem run_editAt (h : d.pipeline.WellFormed) (version : Nat) (e : Edit) :
    (editAt version e).run d =
      Work.settle d ((d.applyAt version e).map fun t => (t.version, t)) := by
  unfold editAt applyAt
  simp only [EStateM.run_bind, EStateM.run_get]
  by_cases current : d.version = version
  · simp only [current, ne_eq, not_true_eq_false, if_false, if_true]
    exact run_edit h e
  · simp only [current, ne_eq, not_false_eq_true, if_false, if_true]
    rfl

theorem run_keep (a : Artifact) :
    (keep a).run d = Work.settle d
      (if d.version = a.version then .ok ((), { d with cache := d.cache.put a })
        else .error (.staleVersion a.version d.version)) := by
  unfold keep
  simp only [EStateM.run_bind, EStateM.run_get]
  by_cases current : d.version = a.version
  · rw [if_pos current, if_neg (not_not.mpr current)]
    rfl
  · rw [if_neg current, if_pos current]
    rfl

/-- The document after the compilation of a snapshot. It keeps what was made, if no edit came
between. -/
def finished (d : Document) (kind : ArtifactKind) (s : Snapshot) :
    Except Error (Artifact × Document) := do
  let a ← d.compiler.compile s.pipeline kind s.version
  if d.version = s.version then return (a, { d with cache := d.cache.put a })
  else throw (.staleVersion s.version d.version)

theorem finished_eq_ok {kind : ArtifactKind} {source : Snapshot} {a : Artifact}
    (done : d.finished kind source = .ok (a, t)) :
    d.version = source.version ∧
      d.compiler.compile source.pipeline kind source.version = .ok a ∧
      t = { d with cache := d.cache.put a } := by
  obtain ⟨b, made, kept⟩ := bind_eq_ok.mp done
  split at kept
  next current =>
    cases kept
    exact ⟨current, made, rfl⟩
  next => cases kept

theorem run_finish (kind : ArtifactKind) (s : Snapshot) :
    (finish kind s).run d = Work.settle d (d.finished kind s) := by
  unfold finish finished
  simp only [EStateM.run_bind, EStateM.run_get]
  cases made : d.compiler.compile s.pipeline kind s.version with
  | error fault => rfl
  | ok a =>
      obtain ⟨text, _, rfl⟩ := map_eq_ok.mp made
      simp only [Work.run_ofExcept_ok, run_keep, EStateM.run_pure]
      by_cases current : d.version = s.version
      · simp only [current, if_true]
        rfl
      · simp only [current, if_false]
        rfl

/-- The compilation of a document recalls an artifact, makes one, or fails. -/
theorem compile_cases (d : Document) (kind : ArtifactKind) :
    (∃ a, d.cache.get? kind = some a ∧ d.compile kind = (.ok a, d)) ∨
      (∃ a, d.compiler.compile d.pipeline kind d.version = .ok a ∧
        d.compile kind = (.ok a, { d with cache := d.cache.put a })) ∨
      ∃ fault, d.cache.get? kind = none ∧
        d.compiler.compile d.pipeline kind d.version = .error fault ∧
        d.compile kind = (.error fault, d) := by
  unfold compile
  cases kept : d.cache.get? kind with
  | some a => exact .inl ⟨a, rfl, rfl⟩
  | none =>
      cases made : d.compiler.compile d.pipeline kind d.version with
      | ok a => exact .inr (.inl ⟨a, rfl, rfl⟩)
      | error fault => exact .inr (.inr ⟨fault, rfl, rfl, rfl⟩)

theorem compile_snd_of_error {kind : ArtifactKind} {fault : Error}
    (failed : (d.compile kind).1 = .error fault) : (d.compile kind).2 = d := by
  obtain ⟨a, _, done⟩ | ⟨a, _, done⟩ | ⟨_, _, _, done⟩ := d.compile_cases kind
  · rw [done]
  · rw [done] at failed
    cases failed
  · rw [done]

/-- Where nothing comes between, a compilation in place is the compilation of the document. -/
theorem run_produce (kind : ArtifactKind) :
    (produce kind).run d =
      Work.settle d ((d.compile kind).1.map fun a => (a, (d.compile kind).2)) := by
  unfold produce compile
  rw [Work.run_get_bind]
  cases d.cache.get? kind with
  | some a => rfl
  | none =>
      rw [run_finish, finished, snapshot]
      cases d.compiler.compile d.pipeline kind d.version with
      | error fault => rfl
      | ok a => exact congrArg (Work.settle d) (if_pos rfl)

/-- The documents that sessions start from: new ones, ones that were loaded from a text, and ones
around a pipeline that was built before. -/
inductive Initial : Document → Prop
  | new (compiler : Compiler) (id : PipelineId) (name : String) : Initial (.new compiler id name)
  | opened {compiler : Compiler} {text : String} {d : Document}
      (loaded : ofText compiler text = .ok d) : Initial d
  | wrapped (compiler : Compiler) {p : Pipeline} (built : p.Reachable) :
      Initial (.ofPipeline compiler p)

theorem Initial.reachable (h : d.Initial) : d.pipeline.Reachable := by
  cases h with
  | new compiler id name => exact .new id name
  | opened loaded =>
      obtain ⟨p, read, rfl⟩ := map_eq_ok.mp loaded
      obtain ⟨_, _, rest⟩ := bind_eq_ok.mp read
      obtain ⟨descriptor, _, built⟩ := bind_eq_ok.mp rest
      exact .loaded built
  | wrapped compiler built => exact built

theorem Initial.cache_eq (h : d.Initial) : d.cache = .empty := by
  cases h with
  | new | wrapped => rfl
  | opened loaded =>
      obtain ⟨p, _, rfl⟩ := map_eq_ok.mp loaded
      rfl

end Document

end Etl
