import Mathlib.Order.WellFoundedSet
import Etl.Pipeline.Order
import Etl.Proofs.Pipeline.Reach

/-!
The ordering of a well-formed pipeline. At every stage each node stands with the number of its
predecessors still to come, and exactly the nodes without such predecessors are ready. So an order
that comes out puts every node behind its predecessors, and an order that fails leaves nodes that
wait for one another, among which there is a cycle.
-/

namespace Etl.Pipeline

open Relation

variable {p : Pipeline}

/-- Every identifier of a list has all its predecessors before it. -/
def Forward (p : Pipeline) (ids : List NodeId) : Prop :=
  ∀ before id after, ids = before ++ id :: after → ∀ a ∈ p.predecessors id, a ∈ before

/-- A list with one more identifier at its end splits at that identifier or inside the list. -/
theorem eq_or_split_of_snoc {ids before after : List NodeId} {id x : NodeId}
    (same : ids ++ [id] = before ++ x :: after) :
    (before = ids ∧ x = id) ∨ ∃ rest, ids = before ++ x :: rest := by
  rcases List.eq_nil_or_concat after with rfl | ⟨rest, y, rfl⟩
  · obtain ⟨rfl, last⟩ := List.append_inj' same rfl
    cases last
    exact .inl ⟨rfl, rfl⟩
  · have same : ids ++ [id] = (before ++ x :: rest) ++ [y] := by simpa using same
    exact .inr ⟨rest, (List.append_inj' same rfl).1⟩

theorem Forward.snoc {ids : List NodeId} {id : NodeId} (h : p.Forward ids)
    (first : ∀ a ∈ p.predecessors id, a ∈ ids) : p.Forward (ids ++ [id]) := by
  intro before x after same a edge
  rcases eq_or_split_of_snoc same with ⟨rfl, rfl⟩ | ⟨rest, split⟩
  · exact first a edge
  · exact h before x rest split a edge

theorem Forward.mem {ids : List NodeId} (h : p.Forward ids) {id a : NodeId} (member : id ∈ ids)
    (edge : a ∈ p.predecessors id) : a ∈ ids := by
  obtain ⟨before, after, rfl⟩ := List.append_of_mem member
  exact List.mem_append_left _ (h before id after rfl a edge)

/-- The start of an edge stands in front of its end. -/
theorem Forward.idxOf_lt (h : p.WellFormed) {ids : List NodeId} (forward : p.Forward ids)
    (distinct : ids.Nodup) {a b : NodeId} (edge : p.Follows a b) (member : b ∈ ids) :
    ids.idxOf a < ids.idxOf b := by
  obtain ⟨before, after, rfl⟩ := List.append_of_mem member
  have earlier : a ∈ before :=
    forward before b after rfl a (h.mem_predecessors_iff_mem_successors.mpr edge)
  have fresh : b ∉ before := fun again =>
    (List.nodup_append.mp distinct).2.2 b again b List.mem_cons_self rfl
  rw [List.idxOf_append_of_mem earlier, List.idxOf_append_of_notMem fresh, List.idxOf_cons_self]
  exact List.idxOf_lt_length_of_mem earlier

/-- The predecessors of a node that are still to come. -/
def waiting (p : Pipeline) (emitted : List NodeId) (id : NodeId) : List NodeId :=
  (p.predecessors id).filter fun a => decide (a ∉ emitted)

theorem waiting_eq_nil_iff {emitted : List NodeId} {id : NodeId} :
    p.waiting emitted id = [] ↔ ∀ a ∈ p.predecessors id, a ∈ emitted := by
  simp [waiting, List.filter_eq_nil_iff]

theorem waiting_snoc (emitted : List NodeId) (id n : NodeId) :
    p.waiting (emitted ++ [id]) n = (p.waiting emitted n).filter fun a => decide (a ≠ id) := by
  rw [waiting, waiting, List.filter_filter]
  congr 1
  funext a
  simp [and_comm]

/-- Emitting a node takes it from the predecessors that its successors wait for. -/
theorem length_waiting_snoc (h : p.WellFormed) {emitted : List NodeId} {id : NodeId}
    (fresh : id ∉ emitted) (n : NodeId) :
    (p.waiting (emitted ++ [id]) n).length =
      if n ∈ p.successors id then (p.waiting emitted n).length - 1
      else (p.waiting emitted n).length := by
  rw [waiting_snoc]
  split
  next edge =>
    have member : id ∈ p.waiting emitted n := by
      simp [waiting, h.mem_predecessors_iff_mem_successors.mpr edge, fresh]
    have distinct : (p.waiting emitted n).Nodup := (p.predecessors_nodup n).filter _
    rw [← List.length_erase_of_mem member, distinct.erase_eq_filter]
    simp [bne, beq_eq_decide]
  next apart =>
    refine congrArg List.length (List.filter_eq_self.mpr fun a member => ?_)
    have edge : a ∈ p.predecessors n := (List.mem_filter.mp member).1
    refine decide_eq_true fun same => apart ?_
    subst same
    exact h.mem_predecessors_iff_mem_successors.mp edge

namespace Stage

/-- A stage stands for the nodes emitted so far. -/
structure Sound (p : Pipeline) (s : Stage) : Prop where
  nodup : s.emitted.Nodup
  nodes : ∀ id ∈ s.emitted, p.containsNode id
  forward : p.Forward s.emitted
  degree : ∀ id, s.degree.get? id =
    if p.containsNode id then some (p.waiting s.emitted id).length else none
  ready : ∀ id, s.ready.contains id ↔
    p.containsNode id ∧ id ∉ s.emitted ∧ p.waiting s.emitted id = []

@[simp]
theorem release_emitted (s : Stage) (id : NodeId) : (s.release id).emitted = s.emitted := by
  unfold release
  split <;> rfl

theorem release_degree (s : Stage) (id n : NodeId) :
    (s.release id).degree.get? n =
      if n = id then (s.degree.get? n).map (· - 1) else s.degree.get? n := by
  unfold release
  split
  next missing =>
    split
    next same => simp [same, missing]
    next => rfl
  next degree found =>
    simp only [SortedMap.get?_insert]
    split
    next same => simp [same, found]
    next => rfl

theorem release_ready (s : Stage) (id n : NodeId) :
    (s.release id).ready.contains n ↔
      s.ready.contains n ∨ (n = id ∧ (s.degree.get? id).map (· - 1) = some 0) := by
  unfold release
  split
  next missing => simp [missing]
  next degree found =>
    simp only [found, Option.map_some, Option.some.injEq]
    split
    next last => simp [last, or_comm]
    next more => simp [more]

@[simp]
theorem foldl_release_emitted (s : Stage) (ids : List NodeId) :
    (ids.foldl release s).emitted = s.emitted := by
  induction ids generalizing s with
  | nil => rfl
  | cons id rest ih => rw [List.foldl_cons, ih, release_emitted]

theorem foldl_release_degree (s : Stage) {ids : List NodeId} (distinct : ids.Nodup) (n : NodeId) :
    (ids.foldl release s).degree.get? n =
      if n ∈ ids then (s.degree.get? n).map (· - 1) else s.degree.get? n := by
  induction ids generalizing s with
  | nil => rfl
  | cons id rest ih =>
      obtain ⟨fresh, distinct⟩ := List.nodup_cons.mp distinct
      rw [List.foldl_cons, ih (s.release id) distinct, release_degree]
      by_cases same : n = id
      · subst same
        simp [fresh]
      · simp [same]

theorem foldl_release_ready (s : Stage) {ids : List NodeId} (distinct : ids.Nodup) (n : NodeId) :
    (ids.foldl release s).ready.contains n ↔
      s.ready.contains n ∨ (n ∈ ids ∧ (s.degree.get? n).map (· - 1) = some 0) := by
  induction ids generalizing s with
  | nil => simp
  | cons id rest ih =>
      obtain ⟨fresh, distinct⟩ := List.nodup_cons.mp distinct
      rw [List.foldl_cons, ih (s.release id) distinct, release_ready, release_degree]
      by_cases same : n = id
      · subst same
        simp [fresh]
      · simp [same]

theorem initial_sound (p : Pipeline) : Sound p (initial p) where
  nodup := List.nodup_nil
  nodes id member := by cases member
  forward before id after same := by simp [initial] at same
  degree id := by
    have all : p.waiting [] id = p.predecessors id := by simp [waiting]
    rw [initial, all]
    split
    next present =>
      obtain ⟨node, found⟩ := containsNode_iff.mp present
      exact SortedMap.get?_eq_some_iff.mpr
        (List.mem_map.mpr ⟨(id, node), SortedMap.get?_eq_some_iff.mp found, rfl⟩)
    next absent =>
      refine SortedMap.get?_eq_none_iff.mpr fun degree member => absent ?_
      obtain ⟨e, entry, same⟩ := List.mem_map.mp member
      cases same
      exact SortedMap.contains_of_get? (SortedMap.get?_eq_some_iff.mpr entry)
  ready id := by
    have all : p.waiting [] id = p.predecessors id := by simp [waiting]
    simp only [initial, SortedMap.contains_mapValues, all]
    rw [SortedMap.contains_iff]
    simp only [SortedMap.get?_filter, Option.filter_eq_some_iff, containsNode_iff, node?,
      List.not_mem_nil, not_false_eq_true, true_and]
    simp [inDegree, List.length_eq_zero_iff]

/-- What one step does: it emits a ready node and releases its successors. -/
theorem step?_eq_some {s next : Stage} (stepped : s.step? p = some next) :
    ∃ id, s.ready.contains id ∧
      next = (p.successors id).foldl release
        { s with ready := s.ready.erase id, emitted := s.emitted ++ [id] } := by
  unfold step? at stepped
  split at stepped
  · cases stepped
  next id _ ready popped =>
    obtain ⟨found, rfl⟩ := SortedMap.popFirst?_eq_some popped
    exact ⟨id, SortedMap.contains_of_get? found, (Option.some.inj stepped).symm⟩

theorem Sound.step (h : p.WellFormed) {s next : Stage} (sound : Sound p s)
    (stepped : s.step? p = some next) :
    Sound p next ∧ next.emitted.length = s.emitted.length + 1 := by
  obtain ⟨id, ready, rfl⟩ := step?_eq_some stepped
  obtain ⟨present, fresh, free⟩ := (sound.ready id).mp ready
  have distinct := p.successors_nodup id
  refine ⟨?_, by simp⟩
  constructor
  case nodup =>
    simpa [List.nodup_append] using ⟨sound.nodup, fun a member same => fresh (same ▸ member)⟩
  case nodes =>
    intro x member
    simp only [foldl_release_emitted, List.mem_append, List.mem_singleton] at member
    rcases member with member | rfl
    · exact sound.nodes x member
    · exact present
  case forward =>
    rw [foldl_release_emitted]
    exact sound.forward.snoc (waiting_eq_nil_iff.mp free)
  case degree =>
    intro n
    rw [foldl_release_degree _ distinct, foldl_release_emitted, length_waiting_snoc h fresh,
      sound.degree]
    by_cases node : p.containsNode n <;> by_cases edge : n ∈ p.successors id <;>
      simp [node, edge]
  case ready =>
    intro n
    rw [foldl_release_ready _ distinct, foldl_release_emitted, sound.degree,
      SortedMap.contains_erase, Bool.and_eq_true, sound.ready,
      ← List.length_eq_zero_iff (l := p.waiting (s.emitted ++ [id]) n),
      length_waiting_snoc h fresh, ← List.length_eq_zero_iff (l := p.waiting s.emitted n)]
    by_cases edge : n ∈ p.successors id
    · -- A successor of the emitted node cannot be emitted, because it was still waiting.
      have node := (h.containsNode_of_mem_successors edge).2
      have behind := h.mem_predecessors_iff_mem_successors.mpr edge
      have later : n ∉ s.emitted := fun member => fresh (sound.forward.mem member behind)
      have apart : n ≠ id := (h.loopless (h.mem_successors_iff.mp edge)).symm
      simp only [edge, node, later, apart, decide_false, Bool.not_false, not_false_eq_true,
        true_and, if_true, List.mem_append, List.mem_singleton, or_self, Option.map_some,
        Option.some.injEq]
      omega
    · simp only [edge, false_and, or_false, if_false, List.mem_append, List.mem_singleton, not_or,
        Bool.not_eq_true', decide_eq_false_iff_not]
      tauto

/-- A run keeps the invariant, and ends only when no node is ready or the fuel is used up. -/
theorem Sound.run (h : p.WellFormed) (fuel : Nat) {s : Stage} (sound : Sound p s) :
    Sound p (Stage.run p fuel s) ∧
      ((Stage.run p fuel s).emitted.length = s.emitted.length + fuel ∨
        ∀ id, (Stage.run p fuel s).ready.contains id = false) := by
  induction fuel generalizing s with
  | zero => exact ⟨sound, .inl rfl⟩
  | succ fuel ih =>
      rw [Stage.run]
      cases stepped : s.step? p with
      | none =>
          refine ⟨sound, .inr fun id => ?_⟩
          unfold step? at stepped
          split at stepped
          next popped => exact SortedMap.popFirst?_eq_none popped id
          next => cases stepped
      | some next =>
          obtain ⟨sound, longer⟩ := sound.step h stepped
          obtain ⟨final, ending⟩ := ih sound
          refine ⟨final, ending.imp_left fun length => ?_⟩
          rw [length, longer]
          omega

/-- Different nodes of the pipeline have been emitted. -/
theorem Sound.subperm {s : Stage} (sound : Sound p s) : s.emitted.Subperm p.nodes.keys :=
  List.subperm_of_subset sound.nodup fun id member => SortedMap.mem_keys.mpr (sound.nodes id member)

/-- A sound stage is determined by the nodes emitted so far. -/
theorem Sound.eq_of_emitted {q : Pipeline} {s t : Stage} (hs : Sound p s) (ht : Sound q t)
    (nodes : ∀ id, p.containsNode id = q.containsNode id)
    (incoming : p.predecessors = q.predecessors) (emitted : s.emitted = t.emitted) : s = t := by
  have waiting : p.waiting s.emitted = q.waiting t.emitted := by
    funext id
    rw [Pipeline.waiting, Pipeline.waiting, incoming, emitted]
  have degree : s.degree = t.degree := by
    refine SortedMap.ext_get? fun id => ?_
    rw [hs.degree, ht.degree, nodes, waiting]
  have ready : s.ready = t.ready := by
    refine SortedSet.ext_contains fun id => Bool.eq_iff_iff.mpr ?_
    rw [hs.ready, ht.ready, nodes, waiting, emitted]
  cases s
  cases t
  simp_all

theorem run_eq {q : Pipeline} (outgoing : p.successors = q.successors) (fuel : Nat) (s : Stage) :
    run p fuel s = run q fuel s := by
  induction fuel generalizing s with
  | zero => rfl
  | succ fuel ih =>
      have step : s.step? p = s.step? q := by rw [step?, step?, outgoing]
      rw [run, run, step]
      cases s.step? q with
      | none => rfl
      | some next => exact ih next

end Stage

/-- Nothing of a pipeline but its graph decides the order. -/
theorem order_eq_of_sameGraph {q : Pipeline} (hp : p.WellFormed) (hq : q.WellFormed)
    (same : p.SameGraph q) : p.order = q.order := by
  have start : Stage.initial p = Stage.initial q :=
    (Stage.initial_sound p).eq_of_emitted (Stage.initial_sound q) same.containsNode_eq
      (same.predecessors_eq hp hq) rfl
  rw [order, order, same.nodeCount_eq, Stage.run_eq (same.successors_eq hp hq), start]

/-- The stage in which the ordering ends. -/
def lastStage (p : Pipeline) : Stage := Stage.run p p.nodeCount (.initial p)

theorem lastStage_sound (h : p.WellFormed) : Stage.Sound p p.lastStage :=
  ((Stage.initial_sound p).run h p.nodeCount).1

theorem order_eq_ok_iff {ids : List NodeId} :
    p.order = .ok ids ↔ p.lastStage.emitted.length = p.nodeCount ∧ p.lastStage.emitted = ids := by
  rw [order, ← lastStage]
  split
  next full => simp [full]
  next short => simp [short]

theorem order_eq_error_iff {fault : Error} :
    p.order = .error fault ↔ p.lastStage.emitted.length ≠ p.nodeCount ∧
      .cycleDetected (p.lastStage.degree.filter fun _ degree => degree != 0).keys = fault := by
  rw [order, ← lastStage]
  split
  next full => simp [full]
  next short => simp [short]

/-- An ordering that ends too early ends because no node is ready. -/
theorem lastStage_stuck (h : p.WellFormed) (short : p.lastStage.emitted.length ≠ p.nodeCount)
    (id : NodeId) : p.lastStage.ready.contains id = false := by
  rcases ((Stage.initial_sound p).run h p.nodeCount).2 with full | done
  · exact absurd (full.trans (Nat.zero_add _)) short
  · exact done id

/-- Either all nodes are emitted in the end, or some node is not. -/
theorem length_lastStage (h : p.WellFormed) :
    p.lastStage.emitted.length = p.nodeCount ↔
      ∀ id, p.containsNode id → id ∈ p.lastStage.emitted := by
  have sound := lastStage_sound h
  have size : p.nodes.keys.length = p.nodeCount := SortedMap.length_keys p.nodes
  have some := sound.subperm
  constructor
  · intro full id present
    have all := some.perm_of_length_le (by rw [full, size])
    exact all.mem_iff.mpr (SortedMap.mem_keys.mpr present)
  · intro each
    have whole : p.nodes.keys ⊆ p.lastStage.emitted := fun id member =>
      each id (SortedMap.mem_keys.mp member)
    have enough := (List.subperm_of_subset p.nodes.keys_nodup whole).length_le
    rw [size] at enough
    exact le_antisymm (size ▸ some.length_le) enough

/-- An order lists every node once, behind its predecessors. -/
theorem order_eq_ok (h : p.WellFormed) {ids : List NodeId} (ordered : p.order = .ok ids) :
    ids.Nodup ∧ (∀ id, id ∈ ids ↔ p.containsNode id) ∧ p.Forward ids := by
  obtain ⟨full, rfl⟩ := order_eq_ok_iff.mp ordered
  have sound := lastStage_sound h
  exact ⟨sound.nodup, fun id => ⟨sound.nodes id, (length_lastStage h).mp full id⟩, sound.forward⟩

/-- An order puts the end of every edge behind its start. -/
theorem idxOf_lt_of_follows (h : p.WellFormed) {ids : List NodeId} (ordered : p.order = .ok ids)
    {a b : NodeId} (edge : p.Follows a b) : ids.idxOf a < ids.idxOf b := by
  obtain ⟨distinct, nodes, forward⟩ := order_eq_ok h ordered
  exact forward.idxOf_lt h distinct edge
    ((nodes b).mpr (h.containsNode_of_mem_successors edge).2)

/-- No node stands in front of one that leads to it. -/
theorem pairwise_of_order_eq_ok (h : p.WellFormed) {ids : List NodeId}
    (ordered : p.order = .ok ids) : ids.Pairwise fun a b => ¬ TransGen p.Follows b a := by
  have ahead {a b : NodeId} (path : TransGen p.Follows a b) : ids.idxOf a < ids.idxOf b := by
    induction path with
    | single edge => exact idxOf_lt_of_follows h ordered edge
    | tail _ edge ih => exact ih.trans (idxOf_lt_of_follows h ordered edge)
  obtain ⟨distinct, -⟩ := order_eq_ok h ordered
  rw [List.pairwise_iff_getElem]
  intro i j inside inside' less path
  have greater := ahead path
  rw [distinct.idxOf_getElem i inside, distinct.idxOf_getElem j inside'] at greater
  exact absurd less (Nat.lt_asymm greater)

/-- Where the nodes can be ordered, every walk against the edges ends. -/
theorem follows_wellFounded (h : p.WellFormed) {ids : List NodeId} (ordered : p.order = .ok ids) :
    WellFounded p.Follows :=
  Subrelation.wf (fun edge => idxOf_lt_of_follows h ordered edge) (measure ids.idxOf).wf

/-- Where the nodes can be ordered, every walk along the edges ends. -/
theorem flip_follows_wellFounded (h : p.WellFormed) {ids : List NodeId}
    (ordered : p.order = .ok ids) : WellFounded (flip p.Follows) := by
  refine Subrelation.wf (fun {b a} edge => ?_) (measure fun id => ids.length - ids.idxOf id).wf
  have less := idxOf_lt_of_follows h ordered edge
  have bound : ids.idxOf b ≤ ids.length := List.idxOf_le_length
  show ids.length - ids.idxOf b < ids.length - ids.idxOf a
  omega

/-- Where finitely many nodes each have a predecessor among them, one of them lies on a cycle. -/
theorem exists_mem_cycle (h : p.WellFormed) {ids : List NodeId} (some : ids ≠ [])
    (behind : ∀ id ∈ ids, ∃ a ∈ p.predecessors id, a ∈ ids) :
    ∃ id ∈ ids, TransGen p.Follows id id := by
  by_contra acyclic
  push Not at acyclic
  have strict : IsStrictOrder NodeId fun a b => a ∈ ids ∧ TransGen p.Follows a b :=
    { irrefl := fun id cycle => acyclic id cycle.1 cycle.2
      trans := fun _ _ _ first second => ⟨first.1, first.2.trans second.2⟩ }
  have founded : {id | id ∈ ids}.WellFoundedOn fun a b => a ∈ ids ∧ TransGen p.Follows a b :=
    (List.finite_toSet ids).wellFoundedOn
  obtain ⟨id, member⟩ := List.exists_mem_of_ne_nil ids some
  refine founded.induction (P := fun _ => False) member fun y member earlier => ?_
  obtain ⟨a, edge, before⟩ := behind y member
  exact earlier a before ⟨before, .single (h.mem_predecessors_iff_mem_successors.mp edge)⟩

/-- Where the ordering is stuck, every node that was not emitted waits for another such node. -/
theorem exists_late_predecessor (h : p.WellFormed)
    (short : p.lastStage.emitted.length ≠ p.nodeCount) {id : NodeId} (present : p.containsNode id)
    (late : id ∉ p.lastStage.emitted) :
    ∃ a ∈ p.predecessors id, a ∉ p.lastStage.emitted := by
  by_contra none
  push Not at none
  have ready := ((lastStage_sound h).ready id).mpr ⟨present, late, waiting_eq_nil_iff.mpr none⟩
  rw [lastStage_stuck h short id] at ready
  cases ready

/-- Where the ordering is stuck, every node that was not emitted lies on a cycle or behind one. -/
theorem exists_cycle_behind (h : p.WellFormed) (short : p.lastStage.emitted.length ≠ p.nodeCount)
    {id : NodeId} (present : p.containsNode id) (late : id ∉ p.lastStage.emitted) :
    ∃ a, TransGen p.Follows a a ∧ ReflTransGen p.Follows a id := by
  let behind := p.nodes.keys.filter fun a =>
    decide (a ∉ p.lastStage.emitted) && p.canReach a id
  have mem_behind : ∀ {a}, a ∈ behind ↔
      p.containsNode a ∧ a ∉ p.lastStage.emitted ∧ ReflTransGen p.Follows a id := by
    simp [behind, SortedMap.mem_keys, containsNode, canReach_iff h]
  have some : behind ≠ [] := List.ne_nil_of_mem (mem_behind.mpr ⟨present, late, .refl⟩)
  obtain ⟨a, member, cycle⟩ := exists_mem_cycle h some fun x member => by
    obtain ⟨node, missing, path⟩ := mem_behind.mp member
    obtain ⟨a, before, ahead⟩ := exists_late_predecessor h short node missing
    have edge := h.mem_predecessors_iff_mem_successors.mp before
    exact ⟨a, before, mem_behind.mpr
      ⟨(h.containsNode_of_mem_successors edge).1, ahead, path.head edge⟩⟩
  exact ⟨a, cycle, (mem_behind.mp member).2.2⟩

/-- An order fails only where there is a cycle. -/
theorem exists_cycle_of_order_eq_error (h : p.WellFormed) {fault : Error}
    (failed : p.order = .error fault) : ∃ id, TransGen p.Follows id id := by
  obtain ⟨short, -⟩ := order_eq_error_iff.mp failed
  have missing := mt (length_lastStage h).mpr short
  push Not at missing
  obtain ⟨id, present, late⟩ := missing
  obtain ⟨a, cycle, -⟩ := exists_cycle_behind h short present late
  exact ⟨a, cycle⟩

end Etl.Pipeline
