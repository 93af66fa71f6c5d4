import Etl.Document.Workspace
import Etl.Proofs.Document.Session

/-!
What errands do to a store and its documents. A document is changed through its own ticket only, and
no call can give a pipeline another identifier, so every document stays where it was put.
-/

namespace Etl

open Results

/-- No edit gives the pipeline another identifier. -/
theorem Edit.id_of_perform {e : Edit} {p q : Pipeline} (performed : e.perform p = .ok q) :
    q.id = p.id := by
  cases e with
  | addNode node =>
      obtain ⟨_, rfl⟩ := Pipeline.addNode_eq_ok performed
      rfl
  | removeNode id =>
      obtain ⟨⟨node, q⟩, removed, rfl⟩ := map_eq_ok.mp performed
      obtain ⟨_, rfl⟩ := Pipeline.removeNode_eq_ok removed
      rfl
  | addEdge e =>
      obtain ⟨_, _, rfl⟩ := Pipeline.addEdge_eq_ok performed
      rfl
  | removeEdge e =>
      cases Pipeline.removeEdge_eq_ok performed
      rfl
  | setConfig | updateConfig | setLabel =>
      obtain ⟨_, _, rfl⟩ := Pipeline.editNode_eq_ok performed
      rfl
  | rename name =>
      cases performed
      rfl

namespace Store

variable (s : Store)

theorem run_enroll (p : Pipeline) : (enroll p).run s = Work.settle s (s.insert p) := by
  unfold enroll insert
  simp only [EStateM.run_bind, EStateM.run_get]
  by_cases present : s.present.contains p.id
  · simp only [present, if_true]
    rfl
  · simp only [present]
    rfl

theorem run_load (text : String) : (load text).run s = Work.settle s (s.openText text) := by
  unfold load openText
  simp only [EStateM.run_bind, EStateM.run_get]
  cases s.compiler.load text with
  | error fault => rfl
  | ok p => exact s.run_enroll p

end Store

/-- The errand asks for a new document, with this pipeline. -/
def Errand.Opens (compiler : Compiler) : Errand → Pipeline → Prop
  | create id name, p => p = .empty id name
  | openText text, p => compiler.load text = .ok p
  | get _, _ | remove _, _ | list, _ | through .., _ => False

theorem Errand.Opens.initial {compiler : Compiler} {e : Errand} {p : Pipeline}
    (asked : e.Opens compiler p) : (Document.ofPipeline compiler p).Initial := by
  cases e with
  | create id name =>
      obtain rfl := asked
      exact .new compiler id name
  | openText text => exact .opened (map_eq_ok.mpr ⟨p, asked, rfl⟩)
  | get | remove | list | through => exact asked.elim

theorem Errand.Opens.callThrough? {compiler : Compiler} {e : Errand} {p : Pipeline}
    (asked : e.Opens compiler p) {t : Ticket} : e.callThrough? t = none := by
  cases e with
  | through => exact asked.elim
  | create | openText | get | remove | list => rfl

theorem Errand.Opens.unique {compiler : Compiler} {e : Errand} {p q : Pipeline}
    (first : e.Opens compiler p) (second : e.Opens compiler q) : p = q := by
  cases e with
  | create => exact first.trans second.symm
  | openText text => exact Except.ok.inj (first.symm.trans second)
  | get | remove | list | through => exact first.elim

/-- No call gives the document another identifier. -/
theorem Session.Served.id_eq {s t : Session} {c : Call} {answer : Except Error Answer}
    (done : s.Served c answer t) : t.document.id = s.document.id := by
  cases done with
  | edited _ _ _ performed => exact Edit.id_of_perform performed
  | refused | recalled | compiled | begun | missed | reported | seen => rfl

namespace Workspace

variable {w v : Workspace}

/-- The workspace after a pipeline found its place vacant. -/
def admitted (w : Workspace) (p : Pipeline) : Workspace :=
  { w with store :=
    { w.store with
      documents := w.store.documents ++ [.ofPipeline w.store.compiler p]
      present := w.store.present.insert p.id w.store.documents.length } }

/-- The workspace after a place was cleared. -/
def cleared (w : Workspace) (id : PipelineId) : Workspace :=
  { w with store := { w.store with present := w.store.present.erase id } }

/-- Everything that an errand can do. -/
inductive Served (w : Workspace) : Errand → Except Error Reply → Workspace → Prop
  | opened {e : Errand} {p : Pipeline} (asked : e.Opens w.store.compiler p)
      (vacant : w.store.get? p.id = none) :
      Served w e (.ok (.ticket w.store.documents.length)) (w.admitted p)
  | taken {e : Errand} {p : Pipeline} {t : Ticket} (asked : e.Opens w.store.compiler p)
      (present : w.store.get? p.id = some t) : Served w e (.error (.duplicatePipeline p.id)) w
  | unread {text : String} {fault : Error} (failed : w.store.compiler.load text = .error fault) :
      Served w (.openText text) (.error fault) w
  | looked {id : PipelineId} : Served w (.get id) (.ok (.found (w.store.get? id))) w
  | removed {id : PipelineId} :
      Served w (.remove id) (.ok (.found (w.store.get? id))) (w.cleared id)
  | listed : Served w .list (.ok (.ids w.store.list)) w
  | missed {t : Ticket} {c : Call} (unknown : w.session? t = none) :
      Served w (.through t c) (.ok (.found none)) w
  | passed {t : Ticket} {c : Call} {s : Session} (known : w.session? t = some s) :
      Served w (.through t c) ((s.enter c).answer.map .answer) (w.put t (s.enter c).after)

theorem run_ticket {work : Work Store Ticket} {r : Except Error (Ticket × Store)}
    (settled : work.run w.store = Work.settle w.store r) :
    (do return .ticket (← onStore work) : Work Workspace Reply).run w =
      Work.settle w (r.map fun done => (.ticket done.1, { w with store := done.2 })) := by
  have within : (onStore work).run w = _ := Work.run_within _ settled rfl
  rw [EStateM.run_bind, within]
  cases r <;> rfl

/-- Nothing but a document in its place stands against a new one. -/
theorem served_of_insert {e : Errand} {p : Pipeline} (asked : e.Opens w.store.compiler p)
    (serves : (serve e).run w = Work.settle w
      ((w.store.insert p).map fun done => (.ticket done.1, { w with store := done.2 }))) :
    w.Served e (w.enter e).reply (w.enter e).after := by
  unfold Store.insert at serves
  rw [enter, serves]
  cases place : w.store.get? p.id with
  | some t =>
      rw [if_pos (SortedMap.contains_of_get? place)]
      exact .taken asked place
  | none =>
      rw [if_neg (by simp [SortedMap.not_contains_iff.mpr place])]
      exact .opened asked place

theorem served_openText (w : Workspace) (text : String) :
    w.Served (.openText text) (w.enter (.openText text)).reply
      (w.enter (.openText text)).after := by
  have serves : (serve (.openText text)).run w = _ := run_ticket (w.store.run_load text)
  unfold Store.openText at serves
  cases loaded : w.store.compiler.load text with
  | error fault =>
      rw [loaded] at serves
      rw [enter, serves]
      exact .unread loaded
  | ok p =>
      rw [loaded] at serves
      exact served_of_insert loaded serves

theorem served_through (w : Workspace) (t : Ticket) (c : Call) :
    w.Served (.through t c) (w.enter (.through t c)).reply (w.enter (.through t c)).after := by
  cases found : w.session? t with
  | none =>
      have serves : (serve (.through t c)).run w = .ok (.found none) w := by
        simp only [serve, EStateM.run_bind, EStateM.run_get, found, EStateM.run_pure]
      rw [enter, serves]
      exact .missed found
  | some s =>
      have serves : (serve (.through t c)).run w =
          (do return .answer (← (Session.serve c).within (fun _ => s) fun w s => w.put t s) :
            Work Workspace Reply).run w := by
        simp only [serve, EStateM.run_bind, EStateM.run_get, found]
      have done := Served.passed (c := c) found
      rw [EStateM.run_bind] at serves
      unfold Session.enter at done
      cases ended : (Session.serve c).run s with
      | ok a t =>
          rw [ended] at done
          rw [Work.run_within_of_ok ended] at serves
          rw [enter, serves]
          exact done
      | error fault t =>
          rw [ended] at done
          rw [Work.run_within_of_error ended] at serves
          rw [enter, serves]
          exact done

theorem served (w : Workspace) (e : Errand) : w.Served e (w.enter e).reply (w.enter e).after := by
  cases e with
  | create id name => exact served_of_insert rfl (run_ticket (w.store.run_enroll _))
  | openText text => exact w.served_openText text
  | get id => exact .looked
  | remove id => exact .removed
  | list => exact .listed
  | through t c => exact w.served_through t c

/-- What holds of a store at all times: every document is in the place of its pipeline, and nothing
was begun on a document that nobody has. -/
structure Sound (compiler : Compiler) (w : Workspace) : Prop where
  compiler : w.store.compiler = compiler
  keyed : ∀ {id t}, w.store.get? id = some t → ∃ d, w.store.document? t = some d ∧ d.id = id
  reachable : ∀ {t d}, w.store.document? t = some d → d.pipeline.Reachable
  fresh : ∀ {t}, w.store.document? t = none → w.drafts t = []

variable {compiler : Compiler} {e : Errand} {reply : Except Error Reply}

theorem sound_empty (compiler : Compiler) : (empty compiler).Sound compiler where
  compiler := rfl
  keyed found := by
    cases found
  reachable found := by
    cases found
  fresh _ := rfl

theorem document?_admitted (p : Pipeline) (t : Ticket) :
    (w.admitted p).store.document? t =
      if t = w.store.documents.length then some (.ofPipeline w.store.compiler p)
      else w.store.document? t := by
  show (w.store.documents ++ [_])[t]? = if _ then _ else w.store.documents[t]?
  rcases Nat.lt_trichotomy t w.store.documents.length with less | rfl | greater
  · rw [if_neg less.ne, List.getElem?_append_left less]
  · rw [if_pos rfl, List.getElem?_concat_length]
  · rw [if_neg greater.ne', List.getElem?_eq_none greater.le, List.getElem?_eq_none]
    simpa using Nat.succ_le_of_lt greater

theorem document?_put (t u : Ticket) (s : Session) :
    (w.put t s).store.document? u =
      if u = t then (w.store.document? t).map fun _ => s.document else w.store.document? u := by
  show (w.store.documents.set t s.document)[u]? = _
  rw [List.getElem?_set']
  by_cases same : u = t
  · subst same
    rw [if_pos rfl, if_pos rfl]
    rfl
  · rw [if_neg (Ne.symm same), if_neg same]
    rfl

theorem get?_admitted (p : Pipeline) (id : PipelineId) :
    (w.admitted p).store.get? id =
      if id = p.id then some w.store.documents.length else w.store.get? id :=
  SortedMap.get?_insert ..

theorem get?_cleared (id other : PipelineId) :
    (w.cleared id).store.get? other = if other = id then none else w.store.get? other :=
  SortedMap.get?_erase ..

theorem session?_eq_some {t : Ticket} {s : Session} :
    w.session? t = some s ↔ w.store.document? t = some s.document ∧ w.drafts t = s.drafts := by
  obtain ⟨d, drafts⟩ := s
  simp only [session?, Option.map_eq_some_iff, Session.mk.injEq]
  constructor
  · rintro ⟨_, found, rfl, rfl⟩
    exact ⟨found, rfl⟩
  · rintro ⟨found, rfl⟩
    exact ⟨d, found, rfl, rfl⟩

theorem lt_length_of_document? {t : Ticket} {d : Document} (found : w.store.document? t = some d) :
    t < w.store.documents.length :=
  (List.getElem?_eq_some_iff.mp found).1

theorem Sound.admitted (h : w.Sound compiler) {p : Pipeline} (reachable : p.Reachable) :
    (w.admitted p).Sound compiler where
  compiler := h.compiler
  keyed {id t} found := by
    rw [get?_admitted] at found
    rw [document?_admitted]
    split at found
    next same =>
      rw [if_pos (Option.some.inj found).symm]
      exact ⟨_, rfl, same.symm⟩
    next =>
      obtain ⟨d, old, key⟩ := h.keyed found
      rw [if_neg (lt_length_of_document? old).ne]
      exact ⟨d, old, key⟩
  reachable {t d} found := by
    rw [document?_admitted] at found
    split at found
    next =>
      cases found
      exact reachable
    next => exact h.reachable found
  fresh {t} unknown := by
    rw [document?_admitted] at unknown
    split at unknown
    next => cases unknown
    next => exact h.fresh unknown

theorem Sound.cleared (h : w.Sound compiler) (id : PipelineId) : (w.cleared id).Sound compiler where
  compiler := h.compiler
  keyed {other t} found := by
    rw [get?_cleared] at found
    split at found
    · cases found
    · exact h.keyed found
  reachable := h.reachable
  fresh := h.fresh

/-- A document that stays reachable and keeps its identifier can be put back. -/
theorem Sound.put (h : w.Sound compiler) {t : Ticket} {s u : Session} (known : w.session? t = some s)
    (reachable : u.document.pipeline.Reachable) (key : u.document.id = s.document.id) :
    (w.put t u).Sound compiler := by
  obtain ⟨own, -⟩ := session?_eq_some.mp known
  have read (other : Ticket) : (w.put t u).store.document? other =
      if other = t then some u.document else w.store.document? other := by
    rw [document?_put, own, Option.map_some]
  refine ⟨h.compiler, fun {id other} found => ?_, fun {other d} found => ?_, fun {other} unknown => ?_⟩
  · obtain ⟨d, old, same⟩ := h.keyed found
    rw [read]
    split
    next mine =>
      rw [mine, own] at old
      cases old
      exact ⟨_, rfl, key.trans same⟩
    next => exact ⟨d, old, same⟩
  · rw [read] at found
    split at found
    next =>
      cases found
      exact reachable
    next => exact h.reachable found
  · rw [read] at unknown
    split at unknown
    next => cases unknown
    next apart =>
      show (if other = t then _ else w.drafts other) = _
      rw [if_neg apart]
      exact h.fresh unknown

theorem Sound.reachable_of_session? (h : w.Sound compiler) {t : Ticket} {s : Session}
    (known : w.session? t = some s) : s.document.pipeline.Reachable :=
  h.reachable (session?_eq_some.mp known).1

theorem Served.sound (done : w.Served e reply v) (h : w.Sound compiler) : v.Sound compiler := by
  cases done with
  | taken | unread | looked | listed | missed => exact h
  | opened asked vacant => exact h.admitted asked.initial.reachable
  | removed => exact h.cleared _
  | @passed t c s known =>
      have reachable := h.reachable_of_session? known
      exact h.put known (s.enter_reachable reachable c) (Session.served reachable.wellFormed c).id_eq

theorem run_sound (h : w.Sound compiler) (errands : List Errand) : (w.run errands).Sound compiler := by
  induction errands generalizing w with
  | nil => exact h
  | cons e rest ih => exact ih ((w.served e).sound h)

theorem session?_admitted (h : w.Sound compiler) (p : Pipeline) (t : Ticket) :
    (w.admitted p).session? t =
      if t = w.store.documents.length then some (.start (.ofPipeline compiler p))
      else w.session? t := by
  rw [session?, document?_admitted]
  split
  next new =>
    have unknown : w.store.document? t = none := List.getElem?_eq_none new.ge
    have unused : (w.admitted p).drafts t = [] := h.fresh unknown
    rw [Option.map_some, h.compiler, unused, Session.start]
  next => rfl

theorem session?_put {t : Ticket} {s : Session} (known : w.session? t = some s) (u : Ticket)
    (after : Session) :
    (w.put t after).session? u = if u = t then some after else w.session? u := by
  obtain ⟨own, -⟩ := session?_eq_some.mp known
  rw [session?, document?_put, own, Option.map_some]
  split
  next same =>
    subst same
    simp [put]
  next apart => simp [put, apart, session?]

/-- A document after an errand. It is a new one, or it is an old one and a call was made on it if
the errand went to it. -/
theorem Served.session? (done : w.Served e reply v) (h : w.Sound compiler) (t : Ticket) :
    (w.session? t = none ∧ reply = .ok (.ticket t) ∧
        ∃ p, e.Opens compiler p ∧ v.session? t = some (.start (.ofPipeline compiler p))) ∨
      v.session? t = (w.session? t).map fun s => s.run (e.callThrough? t).toList := by
  have idle (elsewhere : e.callThrough? t = none) (same : v.session? t = w.session? t) :
      v.session? t = (w.session? t).map fun s => s.run (e.callThrough? t).toList := by
    rw [same, elsewhere]
    exact Option.map_id'.symm
  cases done with
  | @opened e p asked vacant =>
      by_cases new : t = w.store.documents.length
      · have unknown : w.store.document? t = none := List.getElem?_eq_none new.ge
        refine .inl ⟨by rw [Workspace.session?, unknown, Option.map_none], by rw [new], p, ?_, ?_⟩
        · rw [← h.compiler]
          exact asked
        · rw [session?_admitted h, if_pos new]
      · refine .inr (idle asked.callThrough? ?_)
        rw [session?_admitted h, if_neg new]
  | taken asked => exact .inr (idle asked.callThrough? rfl)
  | unread | looked | removed | listed => exact .inr (idle rfl rfl)
  | @missed u c unknown =>
      by_cases mine : u = t
      · subst mine
        rw [unknown]
        exact .inr rfl
      · exact .inr (idle (if_neg mine) rfl)
  | @passed u c s known =>
      have put := session?_put known t (s.enter c).after
      by_cases mine : u = t
      · subst mine
        right
        rw [put, if_pos rfl, known, Errand.callThrough?, if_pos rfl]
        rfl
      · refine .inr (idle (if_neg mine) ?_)
        rw [put, if_neg (Ne.symm mine)]

/-- The calls of errands that go to a document. -/
def callsThrough (t : Ticket) (errands : List Errand) : List Call :=
  errands.filterMap (·.callThrough? t)

theorem callsThrough_cons (t : Ticket) (e : Errand) (rest : List Errand) :
    callsThrough t (e :: rest) = (e.callThrough? t).toList ++ callsThrough t rest := by
  cases found : e.callThrough? t <;> simp [callsThrough, found]

/-- A document after errands. The calls that went to it were made on it, and nothing else. -/
theorem session?_run (h : w.Sound compiler) {t : Ticket} {s : Session}
    (known : w.session? t = some s) (errands : List Errand) :
    (w.run errands).session? t = some (s.run (callsThrough t errands)) := by
  induction errands generalizing w s with
  | nil => exact known
  | cons e rest ih =>
      have done := w.served e
      have step : (w.enter e).after.session? t = some (s.run (e.callThrough? t).toList) := by
        obtain ⟨unknown, -⟩ | after := done.session? h t
        · cases known.symm.trans unknown
        · rw [after, known, Option.map_some]
      rw [callsThrough_cons]
      exact (ih (done.sound h) step).trans (congrArg some List.foldl_append.symm)

/-- A document that was not there before was opened by one of the errands, and is what the calls
that went to it since then made of it. -/
theorem exists_opening (h : w.Sound compiler) {t : Ticket} {s : Session} {errands : List Errand}
    (new : w.session? t = none) (known : (w.run errands).session? t = some s) :
    ∃ before e after p, errands = before ++ e :: after ∧ e.Opens compiler p ∧
      ((w.run before).enter e).reply = .ok (.ticket t) ∧
      s = (Session.start (.ofPipeline compiler p)).run (callsThrough t after) := by
  induction errands generalizing w with
  | nil => cases new.symm.trans known
  | cons e rest ih =>
      have done := w.served e
      obtain ⟨-, reply, p, asked, start⟩ | after := done.session? h t
      · refine ⟨[], e, rest, p, rfl, asked, reply, ?_⟩
        exact Option.some.inj (known.symm.trans (session?_run (done.sound h) start rest))
      · rw [new, Option.map_none] at after
        obtain ⟨before, x, back, p, rfl, found⟩ := ih (done.sound h) after known
        exact ⟨e :: before, x, back, p, rfl, found⟩

end Workspace

end Etl
