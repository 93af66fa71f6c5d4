import Etl.Proofs.Document.Cache
import Etl.Proofs.Document.Versions
import Etl.Proofs.Document.Workspace

/-!
Documents of a store are independent. What is done through one ticket shows in that document only,
whether or not it is still in the store, and its pipeline and version are what its own edits made of
the pipeline that it began with.
-/

namespace Etl

/-- Documents that differ in what they keep of compilations at most. -/
structure Document.Alike (d e : Document) : Prop where
  compiler : d.compiler = e.compiler
  pipeline : d.pipeline = e.pipeline
  version : d.version = e.version

namespace Document.Alike

variable {d e f : Document}

theorem refl (d : Document) : d.Alike d := ⟨rfl, rfl, rfl⟩

theorem symm (alike : d.Alike e) : e.Alike d :=
  ⟨alike.compiler.symm, alike.pipeline.symm, alike.version.symm⟩

theorem trans (first : d.Alike e) (second : e.Alike f) : d.Alike f :=
  ⟨first.compiler.trans second.compiler, first.pipeline.trans second.pipeline,
    first.version.trans second.version⟩

end Document.Alike

namespace Session

variable {s t : Session}

/-- An edit that one document accepts is accepted by a document like it, and they stay alike. -/
theorem alike_of_accepted (hs : s.document.pipeline.WellFormed)
    (ht : t.document.pipeline.WellFormed) (alike : s.document.Alike t.document) {c : Call}
    {e : Edit} (asked : c.edit? = some e) {answer : Answer}
    (accepted : (s.enter c).answer = .ok answer) :
    (∃ answer, (t.enter c).answer = .ok answer) ∧
      (s.enter c).after.document.Alike (t.enter c).after.document := by
  obtain ⟨compiler, pipeline, version⟩ := alike
  obtain ⟨current, checked, q, performed, -, after⟩ :=
    (accepted ▸ served hs c : s.Served c (.ok answer) _).of_edit asked
  rw [compiler, pipeline] at checked
  rw [pipeline] at performed
  obtain ⟨other, answered⟩ := exists_answer_of_perform ht asked
    (fun v named => version.symm.trans (current v named)) checked performed
  obtain ⟨-, -, q', performed', -, after'⟩ :=
    (answered ▸ served ht c : t.Served c (.ok other) _).of_edit asked
  obtain rfl := Except.ok.inj (performed.symm.trans performed')
  refine ⟨⟨other, answered⟩, ?_⟩
  rw [after, after']
  exact ⟨compiler, rfl, congrArg (· + 1) version⟩

theorem alike_of_edit (hs : s.document.pipeline.WellFormed) (ht : t.document.pipeline.WellFormed)
    (alike : s.document.Alike t.document) {c : Call} {e : Edit} (asked : c.edit? = some e) :
    (s.enter c).after.document.Alike (t.enter c).after.document := by
  have mine := served hs c
  have theirs := served ht c
  cases answered : (s.enter c).answer with
  | ok answer => exact (alike_of_accepted hs ht alike asked answered).2
  | error fault =>
      cases answered' : (t.enter c).answer with
      | ok answer =>
          obtain ⟨⟨other, accepted⟩, -⟩ := alike_of_accepted ht hs alike.symm asked answered'
          cases answered.symm.trans accepted
      | error fault' =>
          rw [answered] at mine
          rw [answered'] at theirs
          rw [mine.eq_of_error, theirs.eq_of_error]
          exact alike

theorem alike_of_other (hs : s.document.pipeline.WellFormed) {c : Call} (other : c.edit? = none) :
    (s.enter c).after.document.Alike s.document := by
  have done := served hs c
  have same := Snapshot.mk.inj (done.snapshot_eq other)
  exact ⟨done.compiler_eq, same.1, same.2⟩

/-- Calls that are no edits can be left out. -/
theorem run_filter_edits (hs : s.document.pipeline.Reachable)
    (ht : t.document.pipeline.Reachable) (alike : s.document.Alike t.document)
    (calls : List Call) :
    (s.run calls).document.Alike (t.run (calls.filter (·.edit?.isSome))).document := by
  induction calls generalizing s t with
  | nil => exact alike
  | cons c rest ih =>
      have after := s.enter_reachable hs c
      cases asked : c.edit? with
      | none =>
          rw [List.filter_cons_of_neg (by simp [asked])]
          exact ih after ht ((alike_of_other hs.wellFormed asked).trans alike)
      | some e =>
          rw [List.filter_cons_of_pos (by simp [asked])]
          exact ih after (t.enter_reachable ht c)
            (alike_of_edit hs.wellFormed ht.wellFormed alike asked)

end Session

namespace Workspace

variable {w v : Workspace} {compiler : Compiler} {t : Ticket}

/-- A ticket that is in no place, and will be in none. -/
structure Retired (w : Workspace) (t : Ticket) : Prop where
  old : t < w.store.documents.length
  absent : ∀ id, w.store.get? id ≠ some t

theorem Served.retired {e : Errand} {reply : Except Error Reply} (done : w.Served e reply v)
    (h : w.Retired t) : v.Retired t := by
  cases done with
  | taken | unread | looked | listed | missed => exact h
  | @opened e p asked vacant =>
      refine ⟨?_, fun id found => ?_⟩
      · simpa [admitted] using Nat.lt_succ_of_lt h.old
      · rw [get?_admitted] at found
        split at found
        · exact h.old.ne (Option.some.inj found).symm
        · exact h.absent id found
  | @removed id =>
      refine ⟨h.old, fun other found => ?_⟩
      rw [get?_cleared] at found
      split at found
      · cases found
      · exact h.absent other found
  | passed known =>
      refine ⟨?_, h.absent⟩
      simpa [put, Store.update] using h.old

theorem run_retired (h : w.Retired t) (errands : List Errand) : (w.run errands).Retired t := by
  induction errands generalizing w with
  | nil => exact h
  | cons e rest ih => exact ih ((w.served e).retired h)

/-- A document that is taken out of its place was in no other. -/
theorem Sound.retired_of_remove (h : w.Sound compiler) {id : PipelineId}
    (found : w.store.get? id = some t) : (w.enter (.remove id)).after.Retired t := by
  obtain ⟨d, own, key⟩ := h.keyed found
  refine ⟨lt_length_of_document? own, fun other again => ?_⟩
  have place : (w.cleared id).store.get? other = some t := again
  rw [get?_cleared] at place
  split at place
  next => cases place
  next apart =>
    obtain ⟨d', own', key'⟩ := h.keyed place
    obtain rfl := Option.some.inj (own.symm.trans own')
    exact apart (key'.symm.trans key)

/-- A new document takes its place or finds it taken. -/
theorem Served.of_opens {e : Errand} {reply : Except Error Reply} {p : Pipeline}
    (done : w.Served e reply v) (asked : e.Opens w.store.compiler p) :
    (w.store.get? p.id = none ∧ reply = .ok (.ticket w.store.documents.length) ∧
        v = w.admitted p) ∨
      ∃ t, w.store.get? p.id = some t ∧ reply = .error (.duplicatePipeline p.id) ∧ v = w := by
  cases done with
  | opened own vacant =>
      rw [← asked.unique own] at vacant ⊢
      exact .inl ⟨vacant, rfl, rfl⟩
  | @taken _ _ t own present =>
      rw [← asked.unique own] at present ⊢
      exact .inr ⟨t, present, rfl, rfl⟩
  | unread failed => cases failed.symm.trans asked
  | looked | removed | listed | missed | passed => exact asked.elim

theorem Served.of_unread {text : String} {fault : Error} {reply : Except Error Reply}
    (done : w.Served (.openText text) reply v)
    (failed : w.store.compiler.load text = .error fault) : reply = .error fault ∧ v = w := by
  cases done with
  | opened asked | taken asked => cases failed.symm.trans asked
  | unread failed' =>
      cases failed.symm.trans failed'
      exact ⟨rfl, rfl⟩

/-- A call shows in no other document, and nowhere in the store. -/
theorem Served.of_through {c : Call} {reply : Except Error Reply}
    (done : w.Served (.through t c) reply v) :
    v.store.present = w.store.present ∧ ∀ u, u ≠ t → v.session? u = w.session? u := by
  cases done with
  | missed => exact ⟨rfl, fun _ _ => rfl⟩
  | passed known =>
      refine ⟨rfl, fun u other => ?_⟩
      rw [session?_put known, if_neg other]
  | opened asked | taken asked => exact asked.elim

theorem Served.of_known {s : Session} {c : Call} {reply : Except Error Reply}
    (done : w.Served (.through t c) reply v) (known : w.session? t = some s) :
    reply = (s.enter c).answer.map .answer ∧ v.session? t = some (s.enter c).after := by
  cases done with
  | missed unknown => cases unknown.symm.trans known
  | passed known' =>
      obtain rfl := Option.some.inj (known.symm.trans known')
      exact ⟨rfl, by rw [session?_put known, if_pos rfl]⟩
  | opened asked | taken asked => exact asked.elim

/-- What clients of a store can rely on at any time. A new document finds its place vacant or is
refused without a trace; the store lists the places that are not vacant; a call shows in the
document that it goes to and nowhere else. -/
structure Orderly (compiler : Compiler) (w : Workspace) : Prop where
  keyed : ∀ {id t}, w.store.get? id = some t → ∃ d, w.store.document? t = some d ∧ d.id = id
  opened : ∀ {e p}, e.Opens compiler p → w.store.get? p.id = none →
    (w.enter e).reply = .ok (.ticket w.store.documents.length) ∧ (w.enter e).after = w.admitted p
  taken : ∀ {e p t}, e.Opens compiler p → w.store.get? p.id = some t →
    (w.enter e).reply = .error (.duplicatePipeline p.id) ∧ (w.enter e).after = w
  unread : ∀ {text fault}, compiler.load text = .error fault →
    (w.enter (.openText text)).reply = .error fault ∧ (w.enter (.openText text)).after = w
  looked : ∀ id, (w.enter (.get id)).reply = .ok (.found (w.store.get? id)) ∧
    (w.enter (.get id)).after = w
  removed : ∀ id, (w.enter (.remove id)).reply = .ok (.found (w.store.get? id)) ∧
    (w.enter (.remove id)).after = w.cleared id
  listed : ∃ ids, (w.enter .list).reply = .ok (.ids ids) ∧ (w.enter .list).after = w ∧
    ids.Pairwise (fun a b => compare a b = .lt) ∧
    ∀ id, id ∈ ids ↔ ∃ t, w.store.get? id = some t
  passed : ∀ {t s}, w.session? t = some s → ∀ c,
    (w.enter (.through t c)).reply = (s.enter c).answer.map .answer ∧
      (w.enter (.through t c)).after.session? t = some (s.enter c).after
  apart : ∀ t c, (w.enter (.through t c)).after.store.present = w.store.present ∧
    ∀ u, u ≠ t → (w.enter (.through t c)).after.session? u = w.session? u

theorem Sound.orderly (h : w.Sound compiler) : w.Orderly compiler where
  keyed := h.keyed
  opened {e p} asked vacant := by
    rw [← h.compiler] at asked
    obtain ⟨_, reply, after⟩ | ⟨t, present, _⟩ := (w.served e).of_opens asked
    · exact ⟨reply, after⟩
    · cases vacant.symm.trans present
  taken {e p t} asked present := by
    rw [← h.compiler] at asked
    obtain ⟨vacant, _⟩ | ⟨_, _, reply, after⟩ := (w.served e).of_opens asked
    · cases vacant.symm.trans present
    · exact ⟨reply, after⟩
  unread failed := by
    rw [← h.compiler] at failed
    exact (w.served _).of_unread failed
  looked id := ⟨rfl, rfl⟩
  removed id := ⟨rfl, rfl⟩
  listed := ⟨w.store.list, rfl, rfl, SortedMap.keys_pairwise _, fun id =>
    SortedMap.mem_keys.trans SortedMap.contains_iff⟩
  passed known c := (w.served (.through _ c)).of_known known
  apart t c := (w.served (.through t c)).of_through

/-- The documents of a store after errands that began with an empty one. Each was opened once and is
what its own edits made of the pipeline that it was opened with. One that was removed is in no place
any more, so that calls through its ticket show neither in the store nor in the documents there. -/
structure Independent (compiler : Compiler) (errands : List Errand) (w : Workspace) : Prop where
  orderly : w.Orderly compiler
  own : ∀ t d, w.store.document? t = some d →
    ∃ before e after p, errands = before ++ e :: after ∧ e.Opens compiler p ∧
      (((empty compiler).run before).enter e).reply = .ok (.ticket t) ∧
      d.snapshot = ((Session.start (.ofPipeline compiler p)).run
        ((callsThrough t after).filter (·.edit?.isSome))).document.snapshot
  gone : ∀ before id t after, errands = before ++ .remove id :: after →
    ((empty compiler).run before).store.get? id = some t →
      (∀ other, w.store.get? other ≠ some t) ∧
      ∀ c, let v := (w.enter (.through t c)).after
        v.store.present = w.store.present ∧
          ∀ other u, w.store.get? other = some u → v.session? u = w.session? u

theorem own_of_document? {errands : List Errand} {d : Document}
    (found : ((empty compiler).run errands).store.document? t = some d) :
    ∃ before e after p, errands = before ++ e :: after ∧ e.Opens compiler p ∧
      (((empty compiler).run before).enter e).reply = .ok (.ticket t) ∧
      d.snapshot = ((Session.start (.ofPipeline compiler p)).run
        ((callsThrough t after).filter (·.edit?.isSome))).document.snapshot := by
  have known : ((empty compiler).run errands).session? t = some ⟨d, _⟩ :=
    session?_eq_some.mpr ⟨found, rfl⟩
  obtain ⟨before, e, after, p, split, asked, reply, made⟩ :=
    exists_opening (sound_empty compiler) rfl known
  have start : (Session.start (.ofPipeline compiler p)).document.pipeline.Reachable :=
    asked.initial.reachable
  have alike := Session.run_filter_edits start start (.refl _) (callsThrough t after)
  rw [← made] at alike
  exact ⟨before, e, after, p, split, asked, reply,
    congrArg₂ Snapshot.mk alike.pipeline alike.version⟩

/-- Documents of a store are independent, whatever clients do and in whatever order. -/
theorem run_independent (compiler : Compiler) (errands : List Errand) :
    Independent compiler errands ((empty compiler).run errands) := by
  constructor
  case orderly => exact (run_sound (sound_empty compiler) errands).orderly
  case own => exact fun t d found => own_of_document? found
  case gone =>
    rintro before id t after rfl found
    have earlier := run_sound (sound_empty compiler) before
    have retired := run_retired (earlier.retired_of_remove found) after
    have whole : (empty compiler).run (before ++ .remove id :: after) =
        (((empty compiler).run before).enter (.remove id)).after.run after := List.foldl_append
    rw [← whole] at retired
    refine ⟨retired.absent, fun c => ?_⟩
    obtain ⟨present, others⟩ := (served _ (.through t c)).of_through
    refine ⟨present, fun other u inside => others u ?_⟩
    rintro rfl
    exact retired.absent other inside

/-- A document that is removed, edited through its ticket, and opened again under its old name. -/
def reopened : List Errand :=
  [.create "p" "first", .through 0 (.edit (.addNode ⟨"a", "source-file", "", .empty⟩)),
   .create "p" "second", .remove "p", .openText "\x7b", .create "p" "second",
   .through 0 (.edit (.rename "ghost")), .through 1 (.editAt 0 (.rename "third"))]

theorem run_independent_reopened :
    let c : Compiler := ⟨Catalog.standard, default⟩
    let w := (empty c).run reopened
    w.store.list = ["p"] ∧ w.store.get? "p" = some 1 ∧
      w.store.documents.map (fun d => (d.pipeline.name, d.version)) =
        [("ghost", 2), ("third", 1)] ∧
      Independent c reopened w ∧
      ∀ call, (w.enter (.through 0 call)).after.session? 1 = w.session? 1 := by
  intro c w
  have facts : w.store.list = ["p"] ∧ w.store.get? "p" = some 1 ∧
      w.store.documents.map (fun d => (d.pipeline.name, d.version)) =
        [("ghost", 2), ("third", 1)] ∧
      ((empty c).run (reopened.take 3)).store.get? "p" = some 0 := by
    decide +kernel
  obtain ⟨listed, place, contents, first⟩ := facts
  have independent := run_independent c reopened
  obtain ⟨_, apart⟩ := independent.gone (reopened.take 3) "p" 0 (reopened.drop 4) rfl first
  exact ⟨listed, place, contents, independent, fun call => (apart call).2 "p" 1 place⟩

end Workspace

end Etl
