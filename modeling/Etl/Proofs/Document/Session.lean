import Etl.Proofs.Document.InPlace

/-!
What calls do to a shared document. One relation says everything that a call can do; a log is a row
of such calls, each on the session that the calls before it left.
-/

namespace Etl

open Results

namespace Session

variable {s : Session}

/-- Everything that a call can do. -/
inductive Served (s : Session) : Call → Except Error Answer → Session → Prop
  | refused {c : Call} {fault : Error} : Served s c (.error fault) s
  | edited {c : Call} {e : Edit} {q : Pipeline} (asked : c.edit? = some e)
      (current : ∀ version, c = .editAt version e → s.document.version = version)
      (checked : e.check s.document.compiler.catalog s.document.pipeline = .ok ())
      (performed : e.perform s.document.pipeline = .ok q) :
      Served s c (.ok (.version (s.document.version + 1)))
        { s with document :=
          { s.document with
            pipeline := q, version := s.document.version + 1, cache := .empty } }
  | recalled {c : Call} {kind : ArtifactKind} {a : Artifact} (other : c.edit? = none)
      (kept : s.document.cache.get? kind = some a) : Served s c (.ok (.artifact a)) s
  | compiled {c : Call} {kind : ArtifactKind} {source : Snapshot} {a : Artifact}
      (other : c.edit? = none)
      (known : source = s.document.snapshot ∨ ⟨kind, source⟩ ∈ s.drafts)
      (current : s.document.version = source.version)
      (made : s.document.compiler.compile source.pipeline kind source.version = .ok a) :
      Served s c (.ok (.artifact a))
        { s with document := { s.document with cache := s.document.cache.put a } }
  | begun {kind : ArtifactKind} :
      Served s (.beginCompile kind) (.ok (.draft s.drafts.length))
        { s with drafts := s.drafts ++ [⟨kind, s.document.snapshot⟩] }
  | missed {number : Nat} : Served s (.endCompile number) (.ok .nothing) s
  | reported : Served s .validate (.ok (.report s.document.validate)) s
  | seen : Served s .snapshot (.ok (.snapshot s.document.snapshot)) s

@[simp]
theorem enter_before (s : Session) (c : Call) : (s.enter c).before = s := by
  unfold enter
  split <;> rfl

@[simp]
theorem enter_call (s : Session) (c : Call) : (s.enter c).call = c := by
  unfold enter
  split <;> rfl

/-- A call that works on the document is served as the work is settled. -/
theorem enter_onDocument {α : Type} {c : Call} (answer : α → Answer) {work : Work Document α}
    {r : Except Error (α × Document)}
    (serves : (serve c).run s = (do return answer (← onDocument work) : Work Session Answer).run s)
    (settled : work.run s.document = Work.settle s.document r) :
    (∃ fault, r = .error fault ∧ s.enter c = ⟨s, c, .error fault, s⟩) ∨
      ∃ a d, r = .ok (a, d) ∧ s.enter c = ⟨s, c, .ok (answer a), { s with document := d }⟩ := by
  have within : (onDocument work).run s = _ := Work.run_within _ settled rfl
  rw [EStateM.run_bind, within] at serves
  rw [enter, serves]
  rcases r with fault | ⟨a, d⟩
  · exact .inl ⟨fault, rfl, rfl⟩
  · exact .inr ⟨a, d, rfl, rfl⟩

theorem answer_of_settled {α : Type} {c : Call} (answer : α → Answer) {work : Work Document α}
    {a : α} {d : Document}
    (serves : (serve c).run s = (do return answer (← onDocument work) : Work Session Answer).run s)
    (settled : work.run s.document = Work.settle s.document (.ok (a, d))) :
    (s.enter c).answer = .ok (answer a) := by
  obtain ⟨_, failed, _⟩ | ⟨_, _, done, ended⟩ := enter_onDocument answer serves settled
  · cases failed
  · cases done
    rw [ended]

/-- Nothing but the check, the pipeline and the version stands against an edit. -/
theorem exists_answer_of_perform (h : s.document.pipeline.WellFormed) {c : Call} {e : Edit}
    {q : Pipeline} (asked : c.edit? = some e)
    (current : ∀ version, c = .editAt version e → s.document.version = version)
    (checked : e.check s.document.compiler.catalog s.document.pipeline = .ok ())
    (performed : e.perform s.document.pipeline = .ok q) :
    ∃ answer, (s.enter c).answer = .ok answer := by
  have applied := Document.apply_eq_ok.mpr ⟨checked, q, performed, rfl⟩
  cases c with
  | edit e' =>
      cases asked
      have settled := Document.run_edit h e
      rw [applied] at settled
      exact ⟨_, answer_of_settled .version rfl settled⟩
  | editAt version e' =>
      cases asked
      have settled := Document.run_editAt h version e
      rw [Document.applyAt_eq_ok.mpr ⟨current version rfl, applied⟩] at settled
      exact ⟨_, answer_of_settled .version rfl settled⟩
  | compile | beginCompile | endCompile | validate | snapshot => cases asked

theorem served_edit (h : s.document.pipeline.WellFormed) (e : Edit) :
    s.Served (.edit e) (s.enter (.edit e)).answer (s.enter (.edit e)).after := by
  obtain ⟨fault, _, ended⟩ | ⟨_, _, done, ended⟩ :=
    enter_onDocument (c := .edit e) .version rfl (Document.run_edit h e)
  · rw [ended]
    exact .refused
  · obtain ⟨d, applied, rfl, rfl⟩ := map_eq_ok.mp done
    obtain ⟨checked, q, performed, rfl⟩ := Document.apply_eq_ok.mp applied
    rw [ended]
    exact .edited rfl (fun _ same => nomatch same) checked performed

theorem served_editAt (h : s.document.pipeline.WellFormed) (version : Nat) (e : Edit) :
    s.Served (.editAt version e) (s.enter (.editAt version e)).answer
      (s.enter (.editAt version e)).after := by
  obtain ⟨fault, _, ended⟩ | ⟨_, _, done, ended⟩ :=
    enter_onDocument (c := .editAt version e) .version rfl (Document.run_editAt h version e)
  · rw [ended]
    exact .refused
  · obtain ⟨d, accepted, rfl, rfl⟩ := map_eq_ok.mp done
    obtain ⟨current, applied⟩ := Document.applyAt_eq_ok.mp accepted
    obtain ⟨checked, q, performed, rfl⟩ := Document.apply_eq_ok.mp applied
    rw [ended]
    refine .edited rfl (fun _ same => ?_) checked performed
    cases same
    exact current

/-- A compilation that nothing comes between is the compilation of the document. -/
theorem enter_compile (kind : ArtifactKind) :
    s.enter (.compile kind) =
      ⟨s, .compile kind, (s.document.compile kind).1.map .artifact,
        { s with document := (s.document.compile kind).2 }⟩ := by
  obtain ⟨fault, ended, entered⟩ | ⟨a, d, ended, entered⟩ :=
    enter_onDocument (s := s) (c := .compile kind) .artifact rfl (Document.run_produce kind)
  · have failed := map_eq_error.mp ended
    rw [entered, failed, Document.compile_snd_of_error failed]
    rfl
  · obtain ⟨a, made, same⟩ := map_eq_ok.mp ended
    cases same
    rw [entered, made]
    rfl

theorem served_compile (kind : ArtifactKind) :
    s.Served (.compile kind) (s.enter (.compile kind)).answer (s.enter (.compile kind)).after := by
  rw [enter_compile]
  obtain ⟨a, kept, done⟩ | ⟨a, made, done⟩ | ⟨fault, _, _, done⟩ := s.document.compile_cases kind
  · rw [done]
    exact .recalled rfl kept
  · rw [done]
    exact .compiled rfl (.inl rfl) rfl made
  · rw [done]
    exact .refused

theorem served_beginCompile (kind : ArtifactKind) :
    s.Served (.beginCompile kind) (s.enter (.beginCompile kind)).answer
      (s.enter (.beginCompile kind)).after := by
  cases kept : s.document.cache.get? kind with
  | some a =>
      have serves : (serve (.beginCompile kind)).run s = .ok (.artifact a) s := by
        simp only [serve, beginCompile, EStateM.run_bind, EStateM.run_get, kept, EStateM.run_pure]
      rw [enter, serves]
      exact .recalled rfl kept
  | none =>
      have serves : (serve (.beginCompile kind)).run s = .ok (.draft s.drafts.length)
          { s with drafts := s.drafts ++ [⟨kind, s.document.snapshot⟩] } := by
        simp only [serve, beginCompile, EStateM.run_bind, EStateM.run_get, kept,
          EStateM.run_modify, EStateM.run_pure]
      rw [enter, serves]
      exact .begun

/-- A compilation ends on what it was begun on. -/
theorem served_endCompile (number : Nat) :
    s.Served (.endCompile number) (s.enter (.endCompile number)).answer
      (s.enter (.endCompile number)).after := by
  cases found : s.drafts[number]? with
  | none =>
      have serves : (serve (.endCompile number)).run s = .ok .nothing s := by
        simp only [serve, endCompile, EStateM.run_bind, EStateM.run_get, found, EStateM.run_pure]
      rw [enter, serves]
      exact .missed
  | some draft =>
      have serves : (serve (.endCompile number)).run s =
          (do return .artifact (← onDocument (Document.finish draft.kind draft.source)) :
            Work Session Answer).run s := by
        simp only [serve, endCompile, EStateM.run_bind, EStateM.run_get, found]
      obtain ⟨fault, _, ended⟩ | ⟨a, d, done, ended⟩ :=
        enter_onDocument .artifact serves (Document.run_finish draft.kind draft.source)
      · rw [ended]
        exact .refused
      · obtain ⟨current, made, rfl⟩ := Document.finished_eq_ok done
        rw [ended]
        exact .compiled rfl (.inr (List.mem_of_getElem? found)) current made

theorem served (h : s.document.pipeline.WellFormed) (c : Call) :
    s.Served c (s.enter c).answer (s.enter c).after := by
  cases c with
  | edit e => exact served_edit h e
  | editAt version e => exact served_editAt h version e
  | compile kind => exact served_compile kind
  | beginCompile kind => exact served_beginCompile kind
  | endCompile number => exact served_endCompile number
  | validate => exact .reported
  | snapshot => exact .seen

theorem Served.reachable {c : Call} {answer : Except Error Answer} {t : Session}
    (done : s.Served c answer t) (h : s.document.pipeline.Reachable) :
    t.document.pipeline.Reachable := by
  cases done with
  | @edited c e q _ _ _ performed =>
      rw [← e.perform_operation] at performed
      exact .step h (.of_perform performed)
  | refused | recalled | compiled | begun | missed | reported | seen => exact h

theorem enter_reachable (h : s.document.pipeline.Reachable) (c : Call) :
    (s.enter c).after.document.pipeline.Reachable :=
  (served h.wellFormed c).reachable h

/-- What every call keeps is kept by every run. -/
theorem run_invariant {P : Session → Prop} (h : s.document.pipeline.Reachable) (now : P s)
    (step : ∀ {t u : Session} {c : Call} {answer : Except Error Answer},
      t.document.pipeline.WellFormed → t.Served c answer u → P t → P u)
    (calls : List Call) : P (s.run calls) := by
  induction calls generalizing s with
  | nil => exact now
  | cons c rest ih =>
      exact ih (enter_reachable h c) (step h.wellFormed (served h.wellFormed c) now)

theorem run_reachable (h : s.document.pipeline.Reachable) (calls : List Call) :
    (s.run calls).document.pipeline.Reachable :=
  run_invariant (P := fun t => t.document.pipeline.Reachable) h h
    (fun _ done now => done.reachable now) calls

/-- Every entry of a log is a call on the session that the calls before it left. -/
theorem exists_eq_enter_of_mem_log {calls : List Call} {x : Entry} (member : x ∈ s.log calls) :
    ∃ first c, x = (s.run first).enter c := by
  induction calls generalizing s with
  | nil => cases member
  | cons c rest ih =>
      rcases List.mem_cons.mp member with rfl | later
      · exact ⟨[], c, rfl⟩
      · obtain ⟨first, c', rfl⟩ := ih later
        exact ⟨c :: first, c', rfl⟩

theorem served_of_mem_log (h : s.document.pipeline.Reachable) {calls : List Call} {x : Entry}
    (member : x ∈ s.log calls) : x.before.Served x.call x.answer x.after := by
  obtain ⟨first, c, rfl⟩ := exists_eq_enter_of_mem_log member
  rw [enter_before, enter_call]
  exact served (run_reachable h first).wellFormed c

end Session

end Etl
