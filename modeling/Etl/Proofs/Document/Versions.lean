import Etl.Catalog.Standard
import Etl.Proofs.Document.Session

/-!
Versions. Along a session the version only grows, and while it stands still so does the pipeline. A
client that saw a pipeline at some version therefore knows what its edit does, if the document is
still at that version.
-/

namespace Etl

namespace Snapshot

/-- What can be seen of a document now and later. -/
structure Precedes (s t : Snapshot) : Prop where
  version_le : s.version ≤ t.version
  pipeline_eq : s.version = t.version → s.pipeline = t.pipeline

variable {s t u : Snapshot}

theorem Precedes.refl (s : Snapshot) : s.Precedes s := ⟨le_rfl, fun _ => rfl⟩

theorem Precedes.trans (first : s.Precedes t) (second : t.Precedes u) : s.Precedes u where
  version_le := first.version_le.trans second.version_le
  pipeline_eq same := by
    have still : s.version = t.version :=
      le_antisymm first.version_le (same ▸ second.version_le)
    exact (first.pipeline_eq still).trans (second.pipeline_eq (still ▸ same))

end Snapshot

namespace Session

variable {s : Session}

/-- Whether a call was an edit and was accepted. -/
def Entry.Accepted (x : Entry) : Prop := x.call.edit?.isSome ∧ ∃ answer, x.answer = .ok answer

/-- What can be seen of the document before a call. -/
def Entry.view (x : Entry) : Snapshot := x.before.document.snapshot

theorem Served.precedes {c : Call} {answer : Except Error Answer} {t : Session}
    (done : s.Served c answer t) : s.document.snapshot.Precedes t.document.snapshot := by
  cases done with
  | edited => exact ⟨Nat.le_succ _, fun same => absurd same (Nat.lt_succ_self _).ne⟩
  | refused | recalled | compiled | begun | missed | reported | seen => exact .refl _

theorem run_precedes (h : s.document.pipeline.Reachable) (calls : List Call) :
    s.document.snapshot.Precedes (s.run calls).document.snapshot :=
  run_invariant (P := fun t => s.document.snapshot.Precedes t.document.snapshot) h (.refl _)
    (fun _ done now => now.trans done.precedes) calls

/-- Whatever a call leaves behind precedes what all later calls find. -/
theorem log_pairwise_precedes (h : s.document.pipeline.Reachable) (calls : List Call) :
    (s.log calls).Pairwise fun x y => x.after.document.snapshot.Precedes y.view := by
  induction calls generalizing s with
  | nil => exact .nil
  | cons c rest ih =>
      have after := enter_reachable h c
      refine List.pairwise_cons.mpr ⟨fun y member => ?_, ih after⟩
      obtain ⟨first, c', rfl⟩ := exists_eq_enter_of_mem_log member
      rw [Entry.view, enter_before]
      exact run_precedes after first

/-- Two calls that find the same version find the same pipeline. -/
theorem view_pipeline_eq (h : s.document.pipeline.Reachable) {calls : List Call} {x y : Entry}
    (first : x ∈ s.log calls) (second : y ∈ s.log calls) (same : x.view.version = y.view.version) :
    x.view.pipeline = y.view.pipeline := by
  have ordered : (s.log calls).Pairwise fun x y =>
      x.view.version = y.view.version → x.view.pipeline = y.view.pipeline := by
    refine (log_pairwise_precedes h calls).imp_of_mem fun member _ later => ?_
    exact ((served_of_mem_log h member).precedes.trans later).pipeline_eq
  exact ordered.forall_of_forall_of_flip (fun _ _ _ => rfl)
    (ordered.imp fun forth same => (forth same.symm).symm) first second same

theorem Served.eq_of_error {c : Call} {fault : Error} {t : Session}
    (done : s.Served c (.error fault) t) : t = s := by
  cases done
  rfl

/-- What an accepted edit says of the session that it found and the one that it leaves. -/
theorem Served.of_edit {c : Call} {e : Edit} {answer : Answer} {t : Session}
    (done : s.Served c (.ok answer) t) (asked : c.edit? = some e) :
    (∀ version, c = .editAt version e → s.document.version = version) ∧
      e.check s.document.compiler.catalog s.document.pipeline = .ok () ∧
      ∃ q, e.perform s.document.pipeline = .ok q ∧ answer = .version (s.document.version + 1) ∧
        t = { s with document :=
          { s.document with
            pipeline := q, version := s.document.version + 1, cache := .empty } } := by
  cases done with
  | edited asked' current checked performed =>
      cases asked.symm.trans asked'
      exact ⟨current, checked, _, performed, rfl, rfl⟩
  | recalled other | compiled other => cases other.symm.trans asked
  | begun | missed | reported | seen => cases asked

theorem Served.snapshot_eq {c : Call} {answer : Except Error Answer} {t : Session}
    (done : s.Served c answer t) (other : c.edit? = none) :
    t.document.snapshot = s.document.snapshot := by
  cases done with
  | edited asked => cases other.symm.trans asked
  | refused | recalled | compiled | begun | missed | reported | seen => rfl

theorem Served.eq_of_seen {c : Call} {seen : Snapshot} {t : Session}
    (done : s.Served c (.ok (.snapshot seen)) t) : seen = s.document.snapshot := by
  cases done
  rfl

theorem edited_of_mem_log (h : s.document.pipeline.Reachable) {calls : List Call} {x : Entry}
    (member : x ∈ s.log calls) (accepted : x.Accepted) :
    ∃ e q, x.call.edit? = some e ∧ e.perform x.view.pipeline = .ok q ∧
      x.answer = .ok (.version (x.view.version + 1)) ∧
      x.after = { x.before with document :=
        { x.before.document with
          pipeline := q, version := x.view.version + 1, cache := .empty } } := by
  obtain ⟨edit, answer, answered⟩ := accepted
  obtain ⟨e, asked⟩ := Option.isSome_iff_exists.mp edit
  obtain ⟨_, _, q, performed, rfl, after⟩ := (answered ▸ served_of_mem_log h member).of_edit asked
  exact ⟨e, q, asked, performed, answered, after⟩

/-- An edit is accepted exactly where it can be done and the version is the one it names, if any. -/
theorem accepted_iff (h : s.document.pipeline.Reachable) {calls : List Call} {x : Entry} {e : Edit}
    (member : x ∈ s.log calls) (asked : x.call.edit? = some e) :
    x.Accepted ↔ (∀ version, x.call = .editAt version e → x.view.version = version) ∧
      e.check x.before.document.compiler.catalog x.view.pipeline = .ok () ∧
      ∃ q, e.perform x.view.pipeline = .ok q := by
  constructor
  · rintro ⟨_, answer, answered⟩
    obtain ⟨current, checked, q, performed, _, _⟩ :=
      (answered ▸ served_of_mem_log h member).of_edit asked
    exact ⟨current, checked, q, performed⟩
  · rintro ⟨current, checked, q, performed⟩
    obtain ⟨first, c, rfl⟩ := exists_eq_enter_of_mem_log member
    simp only [Entry.view, enter_before, enter_call] at asked current checked performed
    refine ⟨by simp [asked], ?_⟩
    exact exists_answer_of_perform (run_reachable h first).wellFormed asked current checked performed

theorem kept_of_mem_log (h : s.document.pipeline.Reachable) {calls : List Call} {x : Entry}
    (member : x ∈ s.log calls) (untouched : ¬ x.Accepted) :
    x.after.document.snapshot = x.view := by
  have done := served_of_mem_log h member
  cases asked : x.call.edit? with
  | none => exact done.snapshot_eq asked
  | some e =>
      cases answered : x.answer with
      | ok answer => exact absurd ⟨by simp [asked], answer, answered⟩ untouched
      | error fault =>
          rw [answered] at done
          rw [done.eq_of_error, Entry.view]

/-- A pipeline that was seen at the version an accepted edit names is the pipeline that the edit
was done to. -/
theorem perform_of_seen (h : s.document.pipeline.Reachable) {calls : List Call} {x y : Entry}
    {e : Edit} (member : x ∈ s.log calls) (accepted : x.Accepted) (asked : x.call.edit? = some e)
    (other : y ∈ s.log calls) {seen : Snapshot} (sees : y.answer = .ok (.snapshot seen))
    (same : seen.version = x.view.version) :
    e.perform seen.pipeline = .ok x.after.document.pipeline := by
  obtain ⟨_, q, asked', performed, _, after⟩ := edited_of_mem_log h member accepted
  cases asked.symm.trans asked'
  have found : seen = y.view := (sees ▸ served_of_mem_log h other).eq_of_seen
  rw [found] at same ⊢
  rw [view_pipeline_eq h other member same, performed, after]

/-- What clients can rely on. Who asks for a snapshot gets one, and an edit that can be done is
accepted. A failed call has no effect. An accepted edit has the whole effect of the edit, makes the
next version and drops what was compiled; nothing else changes the pipeline or the version. A
version has one pipeline, whoever sees it. -/
structure Faithful (log : List Entry) : Prop where
  seen : ∀ x ∈ log, x.call = .snapshot → x.answer = .ok (.snapshot x.view)
  accepted : ∀ x ∈ log, ∀ e, x.call.edit? = some e →
    (x.Accepted ↔ (∀ version, x.call = .editAt version e → x.view.version = version) ∧
      e.check x.before.document.compiler.catalog x.view.pipeline = .ok () ∧
      ∃ q, e.perform x.view.pipeline = .ok q)
  refused : ∀ x ∈ log, ∀ fault, x.answer = .error fault → x.after = x.before
  edited : ∀ x ∈ log, x.Accepted → ∃ e q, x.call.edit? = some e ∧
    e.perform x.view.pipeline = .ok q ∧ x.answer = .ok (.version (x.view.version + 1)) ∧
    x.after = { x.before with document :=
      { x.before.document with pipeline := q, version := x.view.version + 1, cache := .empty } }
  kept : ∀ x ∈ log, ¬ x.Accepted → x.after.document.snapshot = x.view
  identified : ∀ x ∈ log, ∀ y ∈ log, ∀ s t,
    x.answer = .ok (.snapshot s) → y.answer = .ok (.snapshot t) → s.version = t.version →
      s.pipeline = t.pipeline
  /-- An edit that names a version is accepted only where no edit was since that version, and does
  to the document what it does to the pipeline that was seen then. -/
  current : ∀ front x back version e, log = front ++ x :: back → x.call = .editAt version e →
    x.Accepted → x.view.version = version ∧
      (∀ y ∈ front, y.Accepted → y.view.version < version) ∧
      ∀ y ∈ log, ∀ s, y.answer = .ok (.snapshot s) → s.version = version →
        e.perform s.pipeline = .ok x.after.document.pipeline

theorem log_faithful {d : Document} (initial : d.Initial) (calls : List Call) :
    Faithful ((start d).log calls) := by
  have h : (start d).document.pipeline.Reachable := initial.reachable
  constructor
  case seen =>
    intro x member asked
    obtain ⟨first, c, rfl⟩ := exists_eq_enter_of_mem_log member
    rw [enter_call] at asked
    subst asked
    rfl
  case accepted => exact fun x member e asked => accepted_iff h member asked
  case refused =>
    intro x member fault answered
    exact (answered ▸ served_of_mem_log h member).eq_of_error
  case edited => exact fun x member accepted => edited_of_mem_log h member accepted
  case kept => exact fun x member untouched => kept_of_mem_log h member untouched
  case identified =>
    intro x first y second s t sees sees' same
    have found : s = x.view := (sees ▸ served_of_mem_log h first).eq_of_seen
    have found' : t = y.view := (sees' ▸ served_of_mem_log h second).eq_of_seen
    rw [found, found'] at same ⊢
    exact view_pipeline_eq h first second same
  case current =>
    intro front x back version e split asked accepted
    have member : x ∈ (start d).log calls := by simp [split]
    have asked' : x.call.edit? = some e := by rw [asked]; rfl
    have now : x.view.version = version := ((accepted_iff h member asked').mp accepted).1 version asked
    refine ⟨now, ?_, ?_⟩
    · intro y earlier accepted'
      have member' : y ∈ (start d).log calls := by simp [split, earlier]
      obtain ⟨_, _, _, _, _, after⟩ := edited_of_mem_log h member' accepted'
      -- The earlier edit left the next version, and `x` did not come before that.
      have ordered := log_pairwise_precedes h calls
      rw [split, List.pairwise_append] at ordered
      have next := (ordered.2.2 y earlier x List.mem_cons_self).version_le
      rw [after, now] at next
      exact next
    · intro y other s sees same
      exact perform_of_seen h member accepted asked' other sees (same.trans now.symm)

/-- Two clients see the same version and both want to change it. The slower one is refused, looks
again and then asks for the version that it sees. -/
def twoClients : List Call :=
  [.snapshot, .snapshot, .editAt 0 (.addNode ⟨"a", "source-file", "", .empty⟩),
   .editAt 0 (.rename "late"), .edit (.addEdge ⟨"a", "b"⟩), .snapshot, .editAt 1 (.rename "now"),
   .compile .json, .snapshot]

theorem log_faithful_twoClients :
    let d : Document := .new ⟨Catalog.standard, default⟩ "p" ""
    d.Initial ∧
      ((start d).log twoClients).map (fun x => x.after.document.version) =
        [0, 0, 1, 1, 1, 1, 2, 2, 2] ∧
      Faithful ((start d).log twoClients) := by
  intro d
  have initial : d.Initial := .new ..
  exact ⟨initial, by decide +kernel, log_faithful initial twoClients⟩

end Session

end Etl
