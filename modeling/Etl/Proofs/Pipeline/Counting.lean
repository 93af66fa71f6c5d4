import Etl.Proofs.Pipeline.Order
import Etl.Proofs.Pipeline.Reachable

/-!
The counting that the order rests on, round by round. At the head of every round a node's degree is
the number of its predecessors still to come. The node that the round emits is one of them for each
of its successors, so no degree is taken down from zero, and a node whose degree gets to zero has
not been ready before. This holds on graphs with cycles too, where the rounds end early.
-/

namespace Etl.Pipeline

variable {p : Pipeline}

namespace Stage

/-- The stage inside a round in which the least ready node has been emitted, and none of its
successors released. -/
def emit (s : Stage) (id : NodeId) (ready : SortedSet NodeId) : Stage :=
  { s with ready, emitted := s.emitted ++ [id] }

/-- The nodes that are put into the ready set while nodes are released one after the other. -/
def entering (s : Stage) : List NodeId → List NodeId
  | [] => []
  | id :: ids =>
    if (s.degree.get? id).map (· - 1) = some 0 then id :: (s.release id).entering ids
    else (s.release id).entering ids

/-- The rounds of the ordering, with their number, the nodes that were put into the ready set by
then, in order, and the stage that is reached. -/
inductive Passes (p : Pipeline) : Nat → List NodeId → Stage → Prop where
  | start : Passes p 0 (initial p).ready.toList (initial p)
  | next {n : Nat} {entered : List NodeId} {s : Stage} {id : NodeId} {ready : SortedSet NodeId}
    (before : Passes p n entered s) (least : s.ready.popFirst? = some ((id, ()), ready)) :
    Passes p (n + 1) (entered ++ (s.emit id ready).entering (p.successors id))
      ((p.successors id).foldl release (s.emit id ready))

theorem step?_of_popFirst? {s : Stage} {id : NodeId} {ready : SortedSet NodeId}
    (least : s.ready.popFirst? = some ((id, ()), ready)) :
    s.step? p = some ((p.successors id).foldl release (s.emit id ready)) := by
  rw [step?, least]
  rfl

theorem entering_sublist (s : Stage) (ids : List NodeId) : (s.entering ids).Sublist ids := by
  induction ids generalizing s with
  | nil => exact .slnil
  | cons id ids ih =>
      rw [entering]
      split
      · exact (ih _).cons_cons id
      · exact (ih _).cons id

theorem mem_entering (s : Stage) {ids : List NodeId} (distinct : ids.Nodup) {n : NodeId} :
    n ∈ s.entering ids ↔ n ∈ ids ∧ (s.degree.get? n).map (· - 1) = some 0 := by
  induction ids generalizing s with
  | nil => simp [entering]
  | cons id ids ih =>
      obtain ⟨fresh, distinct⟩ := List.nodup_cons.mp distinct
      have rest := ih (s.release id) distinct
      rw [release_degree] at rest
      rw [entering]
      by_cases same : n = id
      · subst same
        have apart : n ∉ (s.release n).entering ids := fun member =>
          fresh ((entering_sublist _ _).subset member)
        split
        next last => simp [last]
        next more => simp [apart, more]
      · rw [if_neg same] at rest
        split <;> simp [same, rest]

/-- What is put into the ready set while nodes are released is logged. -/
theorem foldl_release_ready_iff (s : Stage) {ids : List NodeId} (distinct : ids.Nodup)
    (n : NodeId) :
    (ids.foldl release s).ready.contains n ↔ s.ready.contains n ∨ n ∈ s.entering ids := by
  rw [foldl_release_ready s distinct, mem_entering s distinct]

/-- What the log of the ready set says at the head of a round: every node is in it once if it has
been emitted or is ready, and else not at all. -/
structure Logged (p : Pipeline) (n : Nat) (entered : List NodeId) (s : Stage) : Prop where
  sound : Sound p s
  rounds : s.emitted.length = n
  nodup : entered.Nodup
  mem_iff : ∀ id, id ∈ entered ↔ id ∈ s.emitted ∨ s.ready.contains id

section Round

variable (h : p.WellFormed) {s : Stage} (sound : Sound p s) {id : NodeId}
  {ready : SortedSet NodeId} (least : s.ready.popFirst? = some ((id, ()), ready))

include h sound least

/-- A successor of the node that is emitted waits for it, so it is neither emitted nor ready. -/
theorem Sound.waits {next : NodeId} (edge : next ∈ p.successors id) :
    id ∈ p.waiting s.emitted next ∧ next ∉ s.emitted ∧ s.ready.contains next = false := by
  have behind := h.mem_predecessors_iff_mem_successors.mpr edge
  obtain ⟨-, fresh, -⟩ := (sound.ready id).mp
    (SortedMap.contains_of_get? (SortedMap.popFirst?_eq_some least).1)
  have waiting : id ∈ p.waiting s.emitted next := by simp [Pipeline.waiting, behind, fresh]
  refine ⟨waiting, fun member => fresh (sound.forward.mem member behind), ?_⟩
  rw [← Bool.not_eq_true, sound.ready]
  rintro ⟨-, -, none⟩
  rw [none] at waiting
  cases waiting

/-- The degree of a successor is taken down from the number of predecessors that it waited for at
the head of the round, the node that is emitted among them. -/
theorem Sound.degree_pos {done later : List NodeId} {next : NodeId}
    (split : p.successors id = done ++ next :: later) :
    (done.foldl release (s.emit id ready)).degree.get? next =
        some (p.waiting s.emitted next).length ∧ 0 < (p.waiting s.emitted next).length := by
  have edge : next ∈ p.successors id := by simp [split]
  have distinct := p.successors_nodup id
  rw [split] at distinct
  obtain ⟨front, -, apart⟩ := List.nodup_append.mp distinct
  have fresh : next ∉ done := fun again => apart next again next List.mem_cons_self rfl
  have node := (h.containsNode_of_mem_successors edge).2
  have degree := sound.degree next
  rw [if_pos node] at degree
  refine ⟨?_, List.length_pos_of_mem (sound.waits h least edge).1⟩
  rw [foldl_release_degree _ front, if_neg fresh]
  exact degree

end Round

theorem Logged.start (p : Pipeline) : Logged p 0 (initial p).ready.toList (initial p) where
  sound := initial_sound p
  rounds := rfl
  nodup := SortedSet.toList_nodup _
  mem_iff id := by simp [SortedSet.mem_toList, initial]

theorem Logged.next (h : p.WellFormed) {n : Nat} {entered : List NodeId} {s : Stage} {id : NodeId}
    {ready : SortedSet NodeId} (logged : Logged p n entered s)
    (least : s.ready.popFirst? = some ((id, ()), ready)) :
    Logged p (n + 1) (entered ++ (s.emit id ready).entering (p.successors id))
      ((p.successors id).foldl release (s.emit id ready)) := by
  obtain ⟨sound, longer⟩ := logged.sound.step h (step?_of_popFirst? least)
  have distinct := p.successors_nodup id
  refine ⟨sound, by rw [longer, logged.rounds], ?_, fun x => ?_⟩
  · refine logged.nodup.append (distinct.sublist (entering_sublist _ _)) ?_
    intro x old new
    have edge := (entering_sublist _ _).subset new
    obtain ⟨-, later, waits⟩ := logged.sound.waits h least edge
    rcases (logged.mem_iff x).mp old with emitted | present
    · exact later emitted
    · rw [waits] at present
      cases present
  · obtain ⟨found, rfl⟩ := SortedMap.popFirst?_eq_some least
    have present := SortedMap.contains_of_get? found
    have ready : (s.emit id (s.ready.erase id)).ready.contains x ↔
        s.ready.contains x ∧ x ≠ id := by
      simp [emit, and_comm]
    have emitted : x ∈ (s.emit id (s.ready.erase id)).emitted ↔ x ∈ s.emitted ∨ x = id := by
      simp [emit]
    rw [List.mem_append, logged.mem_iff, foldl_release_ready_iff _ distinct,
      foldl_release_emitted, ready, emitted]
    by_cases same : x = id
    · subst same
      simp [present]
    · simp [same, or_assoc]

variable {n : Nat} {entered : List NodeId} {s : Stage}

theorem Passes.logged (h : p.WellFormed) (passes : Passes p n entered s) :
    Logged p n entered s := by
  induction passes with
  | start => exact .start p
  | next _ least ih => exact ih.next h least

theorem Logged.length_le (logged : Logged p n entered s) : n ≤ p.nodeCount := by
  have some := logged.sound.subperm.length_le
  rwa [logged.rounds, SortedMap.length_keys] at some

/-- What a run with a bound does are rounds of the ordering. -/
theorem Passes.exists_run (passes : Passes p n entered s) (fuel : Nat) :
    ∃ m all, Passes p m all (Stage.run p fuel s) := by
  induction fuel generalizing n entered s with
  | zero => exact ⟨n, entered, passes⟩
  | succ fuel ih =>
      rw [Stage.run]
      cases least : s.ready.popFirst? with
      | none =>
          have done : s.step? p = none := by rw [step?, least]
          rw [done]
          exact ⟨n, entered, passes⟩
      | some popped =>
          rw [step?_of_popFirst? least]
          exact ih (passes.next least)

end Stage

open Stage

/-- No node is ready when the ordering ends. -/
theorem lastStage_done (h : p.WellFormed) : p.lastStage.ready.popFirst? = none := by
  cases least : p.lastStage.ready.popFirst? with
  | none => rfl
  | some popped =>
      have present := SortedMap.contains_of_get? (SortedMap.popFirst?_eq_some least).1
      obtain ⟨node, late, -⟩ := ((lastStage_sound h).ready _).mp present
      by_cases full : p.lastStage.emitted.length = p.nodeCount
      · exact absurd ((length_lastStage h).mp full _ node) late
      · rw [lastStage_stuck h full] at present
        cases present

/-- The counting of the order never goes wrong, with or without cycles. At the head of every round
the degree of each node is the number of its predecessors still to come, and every degree that the
round takes down is above zero. No node is put into the ready set or emitted twice, each round emits
one node, and after at most as many rounds as there are nodes none is ready. -/
theorem counting_exact (h : p.WellFormed) :
    (∀ n entered s, Passes p n entered s →
      (∀ id, p.containsNode id → s.degree.get? id = some (p.waiting s.emitted id).length) ∧
        (∀ id ready, s.ready.popFirst? = some ((id, ()), ready) →
          ∀ done next later, p.successors id = done ++ next :: later →
            ∃ degree > 0, (done.foldl release (s.emit id ready)).degree.get? next = some degree) ∧
        entered.Nodup ∧ s.emitted.Nodup ∧ (∀ id ∈ s.emitted, id ∈ entered) ∧
        s.emitted.length = n ∧ n ≤ p.nodeCount) ∧
      ∃ n entered, Passes p n entered p.lastStage ∧ p.lastStage.ready.popFirst? = none ∧
        (p.order = .ok p.lastStage.emitted ↔ n = p.nodeCount) := by
  constructor
  · intro n entered s passes
    have logged := passes.logged h
    refine ⟨fun id node => ?_, fun id ready least done next later split => ?_, logged.nodup,
      logged.sound.nodup, fun id member => (logged.mem_iff id).mpr (.inl member), logged.rounds,
      logged.length_le⟩
    · rw [logged.sound.degree, if_pos node]
    · obtain ⟨degree, positive⟩ := logged.sound.degree_pos h least split
      exact ⟨_, positive, degree⟩
  · obtain ⟨n, entered, passes⟩ := Passes.start.exists_run p.nodeCount
    refine ⟨n, entered, passes, lastStage_done h, ?_⟩
    rw [order_eq_ok_iff, ← (passes.logged h).rounds]
    exact and_iff_left rfl

/-- Two sources of a node that is on a cycle with the node behind it. -/
def fedCycle : Descriptor where
  id := "p"
  name := "P"
  nodes :=
    [⟨"A", "transform-sql", "", .ofList []⟩, ⟨"B", "transform-sql", "", .ofList []⟩,
      ⟨"C", "transform-sql", "", .ofList []⟩, ⟨"D", "transform-sql", "", .ofList []⟩]
  edges := [⟨"A", "C"⟩, ⟨"B", "C"⟩, ⟨"C", "D"⟩, ⟨"D", "C"⟩]

theorem counting_exact_fedCycle :
    ∃ p, ofDescriptor fedCycle = .ok p ∧ p.WellFormed ∧ p.lastStage.degree.get? "C" = some 1 ∧
      ∃ entered, Passes p 2 entered p.lastStage ∧ entered.Nodup := by
  obtain ⟨p, built⟩ : ∃ p, ofDescriptor fedCycle = .ok p := ⟨_, rfl⟩
  have h : p.WellFormed := Reachable.wellFormed (.loaded built)
  have facts : p.containsNode "C" ∧ p.lastStage.emitted.length = 2 ∧
      (p.waiting p.lastStage.emitted "C").length = 1 := by
    cases built
    decide +kernel
  obtain ⟨node, short, waits⟩ := facts
  obtain ⟨each, n, entered, passes, -⟩ := counting_exact h
  obtain ⟨degree, -, once, -, -, rounds, -⟩ := each n entered _ passes
  refine ⟨p, built, h, by rw [degree "C" node, waits], entered, ?_, once⟩
  rw [← short, rounds]
  exact passes

end Etl.Pipeline
