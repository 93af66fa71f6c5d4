import Etl.Catalog.Standard
import Etl.Proofs.Document.Session
import Etl.Proofs.Pipeline.Cycle

/-!
Edits close no cycle and refuse no edge that closes none. All cycles of a document therefore come
from the pipeline that it began with.
-/

namespace Etl

open Results

theorem Edit.isCycle_of_perform {p q : Pipeline} (h : p.WellFormed) {e : Edit}
    (performed : e.perform p = .ok q) {c : Cycle NodeId} (cycle : IsCycle q.Joined c) :
    IsCycle p.Joined c := by
  cases e with
  | addEdge e => exact Pipeline.isCycle_of_addEdge h performed cycle
  | removeEdge e =>
      cases Pipeline.removeEdge_eq_ok performed
      refine cycle.mono fun a b edge => ?_
      rw [Pipeline.Joined, SortedMap.contains_erase, Bool.and_eq_true] at edge
      exact edge.2
  | removeNode id =>
      obtain ⟨⟨node, q⟩, removed, rfl⟩ := map_eq_ok.mp performed
      obtain ⟨_, rfl⟩ := Pipeline.removeNode_eq_ok removed
      exact cycle.mono fun a b edge => (Pipeline.contains_apart.mp edge).2.2
  | addNode node =>
      obtain ⟨_, rfl⟩ := Pipeline.addNode_eq_ok performed
      exact cycle
  | setConfig | updateConfig | setLabel =>
      obtain ⟨_, _, rfl⟩ := Pipeline.editNode_eq_ok performed
      exact cycle
  | rename name =>
      cases performed
      exact cycle

namespace Session

variable {s : Session}

theorem Served.isCycle (h : s.document.pipeline.WellFormed) {call : Call}
    {answer : Except Error Answer} {t : Session} (done : s.Served call answer t)
    {c : Cycle NodeId} (cycle : IsCycle t.document.pipeline.Joined c) :
    IsCycle s.document.pipeline.Joined c := by
  cases done with
  | edited _ _ _ performed => exact Edit.isCycle_of_perform h performed cycle
  | refused | recalled | compiled | begun | missed | reported | seen => exact cycle

theorem run_isCycle (h : s.document.pipeline.Reachable) (calls : List Call) :
    ∀ c, IsCycle (s.run calls).document.pipeline.Joined c → IsCycle s.document.pipeline.Joined c :=
  run_invariant
    (P := fun t => ∀ c, IsCycle t.document.pipeline.Joined c → IsCycle s.document.pipeline.Joined c)
    h (fun _ cycle => cycle) (fun wellFormed done now c cycle => now c (done.isCycle wellFormed cycle))
    calls

end Session

/-- A new edge between different nodes is accepted exactly when it closes no cycle, whatever cycles
there are. So no edit of a document makes a cycle, and a document without cycles stays so. -/
theorem edits_make_no_cycle :
    (∀ (p : Pipeline) (e : Edge), p.WellFormed → p.containsNode e.source →
      p.containsNode e.target → e.source ≠ e.target → p.edges.contains e = false →
        (∀ q, (Pipeline.Change.addEdge e).run p = .ok () q ↔ ¬ p.Closes e ∧ q = p.insertEdge e) ∧
        (p.Closes e → (Pipeline.Change.addEdge e).run p = .error (.cycleWouldForm e) p)) ∧
      ∀ (d : Document) (calls : List Call), d.Initial →
        (∀ c, IsCycle ((Session.start d).run calls).document.pipeline.Joined c →
          IsCycle d.pipeline.Joined c) ∧
        (d.pipeline.Acyclic → ((Session.start d).run calls).document.pipeline.Acyclic) := by
  constructor
  · intro p e h source target apart fresh
    have sound := Pipeline.edgeFault?_of_new h source target apart fresh
    obtain ⟨refused, accepted⟩ := Pipeline.addEdge_eq h sound
    rw [Pipeline.Change.run_addEdge h]
    by_cases closes : p.Closes e
    · rw [refused closes]
      refine ⟨fun q => iff_of_false (fun ended => nomatch ended) ?_, fun _ => rfl⟩
      exact fun both => both.1 closes
    · rw [accepted closes]
      refine ⟨fun q => ?_, fun other => absurd other closes⟩
      rw [Work.settle_eq_ok]
      simp [Except.map, closes, eq_comm]
  · intro d calls initial
    have kept := Session.run_isCycle (s := .start d) initial.reachable calls
    exact ⟨kept, fun acyclic c cycle => acyclic c (kept c cycle)⟩

/-- Two nodes that read each other, and one that nobody reads. -/
def mutualReaders : Descriptor where
  id := "p"
  name := ""
  nodes :=
    [⟨"a", "transform-filter", "", .empty⟩, ⟨"b", "transform-filter", "", .empty⟩,
     ⟨"c", "transform-filter", "", .empty⟩]
  edges := [⟨"a", "b"⟩, ⟨"b", "a"⟩]

/-- An edge beside a cycle is accepted, and a new document stays without cycles. -/
theorem edits_make_no_cycle_mutualReaders :
    (∃ p, Pipeline.ofDescriptor mutualReaders = .ok p ∧ ¬ p.Closes ⟨"b", "c"⟩ ∧
      (Pipeline.Change.addEdge ⟨"b", "c"⟩).run p = .ok () (p.insertEdge ⟨"b", "c"⟩)) ∧
      ((Session.start (.new ⟨Catalog.standard, default⟩ "p" "")).run
        [.edit (.addNode ⟨"a", "transform-filter", "", .empty⟩),
         .edit (.addNode ⟨"b", "transform-filter", "", .empty⟩), .edit (.addEdge ⟨"a", "b"⟩),
         .edit (.addEdge ⟨"b", "a"⟩)]).document.pipeline.Acyclic := by
  obtain ⟨edges, runs⟩ := edits_make_no_cycle
  obtain ⟨p, built⟩ : ∃ p, Pipeline.ofDescriptor mutualReaders = .ok p := ⟨_, rfl⟩
  have h : p.WellFormed := (Pipeline.Reachable.loaded built).wellFormed
  have ends : p.containsNode "b" ∧ p.containsNode "c" ∧ p.edges.contains ⟨"b", "c"⟩ = false := by
    cases built
    decide +kernel
  have ended : (Pipeline.Change.addEdge ⟨"b", "c"⟩).run p = .ok () (p.insertEdge ⟨"b", "c"⟩) := by
    cases built
    rfl
  obtain ⟨outcome, _⟩ := edges p ⟨"b", "c"⟩ h ends.1 ends.2.1 (by decide) ends.2.2
  exact ⟨⟨p, built, ((outcome _).mp ended).1, ended⟩,
    (runs _ _ (.new ..)).2 (Pipeline.empty_acyclic "p" "")⟩

end Etl
