import Etl.Proofs.Document.Versions

/-!
The texts that a document keeps are the texts that it would make. What was begun on an earlier
version cannot end in the cache, since the pipeline of a version never changes.
-/

namespace Etl

open Results

namespace Cache

variable {c : Cache} {kind : ArtifactKind} {a b : Artifact}

@[simp]
theorem get?_empty (kind : ArtifactKind) : empty.get? kind = none := by
  cases kind <;> rfl

theorem get?_put : (c.put b).get? kind = if b.kind = kind then some b else c.get? kind := by
  obtain ⟨kind', text, id, version⟩ := b
  cases kind <;> cases kind' <;> rfl

end Cache

theorem Compiler.compile_eq_ok {c : Compiler} {p : Pipeline} {kind : ArtifactKind} {version : Nat}
    {a : Artifact} (made : c.compile p kind version = .ok a) :
    a.kind = kind ∧ a.version = version ∧ a.pipelineId = p.id ∧ c.generate p kind = .ok a.text := by
  obtain ⟨text, generated, rfl⟩ := map_eq_ok.mp made
  exact ⟨rfl, rfl, rfl, generated⟩

/-- A compiled text is kept. -/
theorem Document.get?_of_compile_eq_ok {d : Document} {kind : ArtifactKind} {a : Artifact}
    (made : (d.compile kind).1 = .ok a) : (d.compile kind).2.cache.get? kind = some a := by
  obtain ⟨b, kept, done⟩ | ⟨b, compiled, done⟩ | ⟨_, _, _, done⟩ := d.compile_cases kind
  · rw [done] at made ⊢
    cases made
    exact kept
  · rw [done] at made ⊢
    cases made
    exact Cache.get?_put.trans (if_pos (Compiler.compile_eq_ok compiled).1)
  · rw [done] at made
    cases made

namespace Session

variable {s : Session}

/-- What is kept would be made now, and what is being made was the pipeline at its version. -/
structure Coherent (s : Session) : Prop where
  kept : ∀ kind a, s.document.cache.get? kind = some a →
    s.document.compiler.compile s.document.pipeline kind s.document.version = .ok a
  begun : ∀ draft ∈ s.drafts, draft.source.Precedes s.document.snapshot

theorem start_coherent {d : Document} (empty : d.cache = .empty) : (start d).Coherent where
  kept kind a found := by
    rw [start, empty, Cache.get?_empty] at found
    cases found
  begun draft member := by cases member

/-- A compilation that ends now has worked on the pipeline of now. -/
theorem Coherent.compile_eq_ok (h : s.Coherent) {kind : ArtifactKind} {source : Snapshot}
    {a : Artifact} (known : source = s.document.snapshot ∨ ⟨kind, source⟩ ∈ s.drafts)
    (current : s.document.version = source.version)
    (made : s.document.compiler.compile source.pipeline kind source.version = .ok a) :
    s.document.compiler.compile s.document.pipeline kind s.document.version = .ok a := by
  rcases known with rfl | member
  · exact made
  · have still : source.pipeline = s.document.pipeline := (h.begun _ member).pipeline_eq current.symm
    rw [← still, current]
    exact made

theorem Served.coherent {c : Call} {answer : Except Error Answer} {t : Session}
    (done : s.Served c answer t) (h : s.Coherent) : t.Coherent := by
  have precedes := done.precedes
  cases done with
  | refused | recalled | missed | reported | seen => exact h
  | edited =>
      refine ⟨fun kind a found => ?_, fun draft member => (h.begun draft member).trans precedes⟩
      rw [Cache.get?_empty] at found
      cases found
  | compiled _ known current made =>
      refine ⟨fun kind a found => ?_, h.begun⟩
      rw [Cache.get?_put] at found
      split at found
      next same =>
        have now := h.compile_eq_ok known current made
        cases found
        obtain ⟨kind_eq, _⟩ := Compiler.compile_eq_ok now
        rw [← same, kind_eq]
        exact now
      next => exact h.kept kind a found
  | begun =>
      refine ⟨h.kept, fun draft member => ?_⟩
      rcases List.mem_append.mp member with member | member
      · exact h.begun draft member
      · rw [List.mem_singleton.mp member]
        exact .refl _

theorem Served.compiler_eq {c : Call} {answer : Except Error Answer} {t : Session}
    (done : s.Served c answer t) : t.document.compiler = s.document.compiler := by
  cases done <;> rfl

/-- Whoever gets an artifact gets the one that would be made now. -/
theorem Served.compile_eq_ok {c : Call} {a : Artifact} {t : Session}
    (done : s.Served c (.ok (.artifact a)) t) (h : s.Coherent) :
    s.document.compiler.compile s.document.pipeline a.kind s.document.version = .ok a := by
  have now {kind : ArtifactKind}
      (made : s.document.compiler.compile s.document.pipeline kind s.document.version = .ok a) :
      s.document.compiler.compile s.document.pipeline a.kind s.document.version = .ok a := by
    rw [(Compiler.compile_eq_ok made).1]
    exact made
  cases done with
  | recalled _ kept => exact now (h.kept _ a kept)
  | compiled _ known current made => exact now (h.compile_eq_ok known current made)

theorem Coherent.compile_fst (h : s.Coherent) (kind : ArtifactKind) :
    (s.document.compile kind).1 =
      s.document.compiler.compile s.document.pipeline kind s.document.version := by
  obtain ⟨a, kept, done⟩ | ⟨a, made, done⟩ | ⟨fault, _, failed, done⟩ :=
    s.document.compile_cases kind
  · rw [done, h.kept kind a kept]
  · rw [done, made]
  · rw [done, failed]

theorem run_coherent {d : Document} (initial : d.Initial) (calls : List Call) :
    ((start d).run calls).Coherent :=
  run_invariant initial.reachable (start_coherent initial.cache_eq)
    (fun _ done now => done.coherent now) calls

theorem run_compiler (h : s.document.pipeline.Reachable) (calls : List Call) :
    (s.run calls).document.compiler = s.document.compiler :=
  run_invariant (P := fun t => t.document.compiler = s.document.compiler) h rfl
    (fun _ done now => done.compiler_eq.trans now) calls

/-- The cache does not show: what is kept is what would be made now, a compilation gives what it
would give without the cache, and so does one that was begun before other calls. -/
theorem run_cache_transparent {d : Document} (initial : d.Initial) (calls : List Call)
    {s : Session} (reached : (start d).run calls = s) :
    (∀ kind a, s.document.cache.get? kind = some a →
        a.kind = kind ∧ a.version = s.document.version ∧ a.pipelineId = s.document.id ∧
          d.compiler.generate s.document.pipeline kind = .ok a.text) ∧
      (∀ kind, (s.enter (.compile kind)).answer =
          (d.compiler.compile s.document.pipeline kind s.document.version).map .artifact ∧
        (s.enter (.compile kind)).after.document.snapshot = s.document.snapshot ∧
        ∀ a, (s.enter (.compile kind)).answer = .ok (.artifact a) →
          (s.enter (.compile kind)).after.document.cache.get? kind = some a) ∧
      ∀ c a, (s.enter c).answer = .ok (.artifact a) →
        d.compiler.compile s.document.pipeline a.kind s.document.version = .ok a := by
  subst reached
  have h := run_coherent initial calls
  have sound := (run_reachable (s := start d) initial.reachable calls).wellFormed
  have compiler : d.compiler = ((start d).run calls).document.compiler :=
    (run_compiler (s := start d) initial.reachable calls).symm
  rw [compiler]
  refine ⟨?_, ?_, ?_⟩
  · intro kind a found
    exact Compiler.compile_eq_ok (h.kept kind a found)
  · intro kind
    refine ⟨?_, (served sound _).snapshot_eq rfl, fun a answered => ?_⟩
    · rw [enter_compile, h.compile_fst]
    · rw [enter_compile] at answered ⊢
      obtain ⟨b, made, same⟩ := map_eq_ok.mp answered
      cases same
      exact Document.get?_of_compile_eq_ok made
  · intro c a answered
    exact (answered ▸ served sound c).compile_eq_ok h

/-- A compilation that is overtaken by an edit, and one that is not. -/
def overtaken : List Call :=
  [.edit (.addNode ⟨"a", "source-pg", "",
      .ofList [("connection", .text "dwh"), ("table", .text "orders")]⟩),
   .edit (.addNode ⟨"b", "target-pg", "",
      .ofList [("connection", .text "dwh"), ("table", .text "daily")]⟩),
   .edit (.addEdge ⟨"a", "b"⟩), .beginCompile .json, .edit (.rename "now"), .endCompile 0,
   .compile .json, .edit (.addEdge ⟨"b", "a"⟩)]

theorem run_cache_transparent_overtaken :
    let d : Document := .new ⟨Catalog.standard, default⟩ "p" ""
    d.Initial ∧ ∃ s a, (start d).run overtaken = s ∧ s.document.cache.get? .json = some a ∧
      a.version = 4 ∧ d.compiler.generate s.document.pipeline .json = .ok a.text := by
  intro d
  have initial : d.Initial := .new ..
  have version : ((start d).run overtaken).document.version = 4 := by decide +kernel
  have some? : (((start d).run overtaken).document.cache.get? .json).isSome := by decide +kernel
  obtain ⟨a, found⟩ := Option.isSome_iff_exists.mp some?
  obtain ⟨kept, _⟩ := run_cache_transparent initial overtaken rfl
  obtain ⟨_, current, _, text⟩ := kept .json a found
  exact ⟨initial, _, a, rfl, found, current.trans version, text⟩

end Session

end Etl
