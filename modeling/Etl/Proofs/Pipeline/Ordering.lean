import Etl.Proofs.Pipeline.Cycle

/-!
The order is exact. It comes out on every graph without cycles, and of all sequences in which every
edge points forward it is the first in dictionary order, because each node in it is the least that
could stand in its place. On any other graph the error names the nodes on cycles and those behind
them.
-/

namespace Etl.Pipeline

open Relation

variable {p : Pipeline} {ids : List NodeId}

/-- An ordering lists every node once, and the start of every edge before its end. -/
structure IsOrdering (p : Pipeline) (ids : List NodeId) : Prop where
  nodup : ids.Nodup
  nodes : ∀ id, id ∈ ids ↔ p.containsNode id
  ahead : ∀ {e}, p.edges.contains e → ids.idxOf e.source < ids.idxOf e.target

/-- A node that a cycle leads to, or that is on one. -/
def BehindCycle (p : Pipeline) (id : NodeId) : Prop :=
  ∃ a, p.OnCycle a ∧ ReflTransGen p.Joined a id

/-- Each identifier of a list is the least of the nodes that could stand in its place. -/
def Greedy (p : Pipeline) (ids : List NodeId) : Prop :=
  ∀ before id after, ids = before ++ id :: after → ∀ other, p.containsNode other →
    other ∉ before → (∀ a ∈ p.predecessors other, a ∈ before) → other = id ∨ compare id other = .lt

theorem IsOrdering.forward (h : p.WellFormed) (ordering : p.IsOrdering ids) : p.Forward ids := by
  rintro before id after rfl a edge
  have less := ordering.ahead (h.mem_predecessors_iff.mp edge)
  have fresh : id ∉ before := fun again =>
    (List.nodup_append.mp ordering.nodup).2.2 id again id List.mem_cons_self rfl
  by_contra late
  rw [List.idxOf_append_of_notMem late, List.idxOf_append_of_notMem fresh,
    List.idxOf_cons_self] at less
  omega

theorem isOrdering_of_order_eq_ok (h : p.WellFormed) (ordered : p.order = .ok ids) :
    p.IsOrdering ids := by
  obtain ⟨nodup, nodes, _⟩ := order_eq_ok h ordered
  exact ⟨nodup, nodes, fun edge => idxOf_lt_of_follows h ordered (h.mem_successors_iff.mpr edge)⟩

theorem Greedy.snoc (h : p.Greedy ids) {id : NodeId}
    (least : ∀ other, p.containsNode other → other ∉ ids → (∀ a ∈ p.predecessors other, a ∈ ids) →
      other = id ∨ compare id other = .lt) : p.Greedy (ids ++ [id]) := by
  intro before x after same
  rcases eq_or_split_of_snoc same with ⟨rfl, rfl⟩ | ⟨rest, split⟩
  · exact least
  · exact h before x rest split

namespace Stage

/-- What comes next is the least of the nodes that are ready. -/
theorem exists_least_of_step? {s next : Stage} (stepped : s.step? p = some next) :
    ∃ id, next.emitted = s.emitted ++ [id] ∧
      ∀ other, s.ready.contains other → other = id ∨ compare id other = .lt := by
  unfold step? at stepped
  split at stepped
  · cases stepped
  next id _ ready popped =>
    refine ⟨id, ?_, fun other present => SortedMap.compare_of_popFirst?_eq_some popped present⟩
    rw [← Option.some.inj stepped, foldl_release_emitted]

theorem Sound.step_greedy {s next : Stage} (sound : Sound p s) (greedy : p.Greedy s.emitted)
    (stepped : s.step? p = some next) : p.Greedy next.emitted := by
  obtain ⟨id, emitted, least⟩ := exists_least_of_step? stepped
  rw [emitted]
  refine greedy.snoc fun other present fresh first => least other ?_
  exact (sound.ready other).mpr ⟨present, fresh, waiting_eq_nil_iff.mpr first⟩

theorem Sound.run_greedy (h : p.WellFormed) (fuel : Nat) {s : Stage} (sound : Sound p s)
    (greedy : p.Greedy s.emitted) : p.Greedy (Stage.run p fuel s).emitted := by
  induction fuel generalizing s with
  | zero => exact greedy
  | succ fuel ih =>
      rw [Stage.run]
      cases stepped : s.step? p with
      | none => exact greedy
      | some next => exact ih (sound.step h stepped).1 (sound.step_greedy greedy stepped)

end Stage

theorem lastStage_greedy (h : p.WellFormed) : p.Greedy p.lastStage.emitted := by
  refine (Stage.initial_sound p).run_greedy h p.nodeCount fun before id after same => ?_
  simp [Stage.initial] at same

/-- Where two orderings part, the greedy one has the lesser node. -/
theorem Greedy.eq_or_lex (h : p.WellFormed) {before rest others : List NodeId}
    (greedy : p.Greedy (before ++ rest)) (mine : p.IsOrdering (before ++ rest))
    (theirs : p.IsOrdering (before ++ others)) :
    rest = others ∨ List.Lex (fun a b => compare a b = .lt) rest others := by
  induction rest generalizing before others with
  | nil =>
      cases others with
      | nil => exact .inl rfl
      | cons y others => exact .inr .nil
  | cons x rest ih =>
      have apart := (List.nodup_append.mp mine.nodup).2.2
      have present := (mine.nodes x).mp (by simp)
      cases others with
      | nil =>
          have again : x ∈ before := by simpa using (theirs.nodes x).mpr present
          exact absurd rfl (apart x again x List.mem_cons_self)
      | cons y others =>
          by_cases same : y = x
          · subst same
            rw [List.append_cons] at greedy mine theirs
            exact (ih greedy mine theirs).imp (congrArg (List.cons y)) .cons
          · have node := (theirs.nodes y).mp (by simp)
            have fresh : y ∉ before := fun again =>
              (List.nodup_append.mp theirs.nodup).2.2 y again y List.mem_cons_self rfl
            have first := theirs.forward h before y others rfl
            exact .inr (.rel ((greedy before x rest rfl y node fresh first).resolve_left same))

theorem behindCycle_iff (h : p.WellFormed) {id : NodeId} :
    p.BehindCycle id ↔ ∃ a, TransGen p.Follows a a ∧ ReflTransGen p.Follows a id := by
  simp only [BehindCycle, onCycle_iff h, follows_eq_joined h]

/-- A node behind a cycle has a predecessor behind it. -/
theorem BehindCycle.exists_predecessor (h : p.WellFormed) {id : NodeId}
    (behind : p.BehindCycle id) : ∃ a ∈ p.predecessors id, p.BehindCycle a := by
  obtain ⟨a, back, path⟩ := (behindCycle_iff h).mp behind
  obtain ⟨b, before, edge⟩ := TransGen.tail'_iff.mp (back.trans_left path)
  exact ⟨b, h.mem_predecessors_iff_mem_successors.mpr edge,
    (behindCycle_iff h).mpr ⟨a, back, before⟩⟩

/-- No list in which every edge points forward has a node behind a cycle. -/
theorem Forward.notMem_of_behindCycle (h : p.WellFormed) (forward : p.Forward ids)
    (distinct : ids.Nodup) {id : NodeId} (behind : p.BehindCycle id) : id ∉ ids := by
  -- The predecessor behind the cycle would stand further in front, and so on for ever.
  induction id using (measure ids.idxOf).wf.induction with
  | _ id ih =>
    intro member
    obtain ⟨a, edge, further⟩ := behind.exists_predecessor h
    have follows := h.mem_predecessors_iff_mem_successors.mp edge
    exact ih a (forward.idxOf_lt h distinct follows member) further (forward.mem member edge)

theorem mem_unemitted (h : p.WellFormed) {id : NodeId} :
    id ∈ (p.lastStage.degree.filter fun _ degree => degree != 0).keys ↔
      p.containsNode id ∧ ∃ a ∈ p.predecessors id, a ∉ p.lastStage.emitted := by
  have late : p.waiting p.lastStage.emitted id ≠ [] ↔
      ∃ a ∈ p.predecessors id, a ∉ p.lastStage.emitted := by
    rw [Ne, waiting_eq_nil_iff]
    push Not
    rfl
  rw [SortedMap.mem_keys, SortedMap.contains_iff]
  simp only [SortedMap.get?_filter, Option.filter_eq_some_iff, (lastStage_sound h).degree]
  rw [← late, Ne, ← List.length_eq_zero_iff]
  split <;> simp_all

/-- The nodes that an error names are those behind cycles. -/
theorem mem_unemitted_iff_behindCycle (h : p.WellFormed)
    (short : p.lastStage.emitted.length ≠ p.nodeCount) {id : NodeId} :
    id ∈ (p.lastStage.degree.filter fun _ degree => degree != 0).keys ↔ p.BehindCycle id := by
  rw [mem_unemitted h]
  constructor
  · rintro ⟨_, a, edge, late⟩
    have follows := h.mem_predecessors_iff_mem_successors.mp edge
    have present := (h.containsNode_of_mem_successors follows).1
    obtain ⟨b, back, path⟩ := exists_cycle_behind h short present late
    exact (behindCycle_iff h).mpr ⟨b, back, path.tail follows⟩
  · intro behind
    obtain ⟨a, edge, further⟩ := behind.exists_predecessor h
    have sound := lastStage_sound h
    have follows := h.mem_predecessors_iff_mem_successors.mp edge
    exact ⟨(h.containsNode_of_mem_successors follows).2, a, edge,
      sound.forward.notMem_of_behindCycle h sound.nodup further⟩

/-- An order comes out exactly where there is no cycle. It is an ordering, and no other ordering
comes before it in dictionary order. Where there is a cycle, the error names the nodes behind cycles
and no others, in ascending order. -/
theorem order_exact (h : p.WellFormed) :
    ((∃ ids, p.order = .ok ids) ↔ p.Acyclic) ∧
      (∀ ids, p.order = .ok ids → p.IsOrdering ids ∧ ∀ other, p.IsOrdering other →
        ids = other ∨ List.Lex (fun a b => compare a b = .lt) ids other) ∧
      ∀ fault, p.order = .error fault → ∃ named, fault = .cycleDetected named ∧ named ≠ [] ∧
        named.Pairwise (fun a b => compare a b = .lt) ∧ ∀ id, id ∈ named ↔ p.BehindCycle id := by
  refine ⟨⟨fun ⟨ids, ordered⟩ => acyclic_of_order_eq_ok h ordered, exists_order_of_acyclic h⟩,
    fun ids ordered => ?_, fun fault failed => ?_⟩
  · have ordering := isOrdering_of_order_eq_ok h ordered
    obtain ⟨-, rfl⟩ := order_eq_ok_iff.mp ordered
    have greedy : p.Greedy ([] ++ p.lastStage.emitted) := lastStage_greedy h
    exact ⟨ordering, fun other theirs => greedy.eq_or_lex h ordering theirs⟩
  · obtain ⟨short, rfl⟩ := order_eq_error_iff.mp failed
    have named (id : NodeId) := @mem_unemitted_iff_behindCycle p h short id
    obtain ⟨a, back⟩ := exists_cycle_of_order_eq_error h failed
    have some := (named a).mpr ((behindCycle_iff h).mpr ⟨a, back, .refl⟩)
    exact ⟨_, rfl, List.ne_nil_of_mem some, SortedMap.keys_pairwise _, named⟩

/-- Two nodes that read each other, one in front of them and one behind them. -/
def knot : Descriptor where
  id := "p"
  name := ""
  nodes := ["exit", "right", "left", "entry"].map fun id => ⟨id, "transform-filter", "", .empty⟩
  edges := [⟨"entry", "left"⟩, ⟨"left", "right"⟩, ⟨"right", "left"⟩, ⟨"right", "exit"⟩]

/-- The same nodes without the edge back. -/
def untied : Descriptor :=
  { knot with edges := [⟨"entry", "left"⟩, ⟨"left", "right"⟩, ⟨"left", "exit"⟩] }

theorem order_exact_knot :
    (∃ p, ofDescriptor knot = .ok p ∧ p.WellFormed ∧ ¬ p.Acyclic ∧
      p.order = .error (.cycleDetected ["exit", "left", "right"]) ∧
      ∀ id, p.BehindCycle id ↔ id ∈ ["exit", "left", "right"]) ∧
    ∃ p, ofDescriptor untied = .ok p ∧ p.WellFormed ∧ p.Acyclic ∧
      p.order = .ok ["entry", "left", "exit", "right"] ∧
      p.IsOrdering ["entry", "left", "exit", "right"] := by
  constructor
  · obtain ⟨p, built⟩ : ∃ p, ofDescriptor knot = .ok p := ⟨_, rfl⟩
    have h := ofDescriptor_wellFormed built
    have failed : p.order = .error (.cycleDetected ["exit", "left", "right"]) := by
      cases built
      rfl
    obtain ⟨comes, _, fails⟩ := order_exact h
    obtain ⟨named, same, _, _, members⟩ := fails _ failed
    cases same
    refine ⟨p, built, h, fun acyclic => ?_, failed, fun id => (members id).symm⟩
    obtain ⟨ids, ordered⟩ := comes.mpr acyclic
    cases failed.symm.trans ordered
  · obtain ⟨p, built⟩ : ∃ p, ofDescriptor untied = .ok p := ⟨_, rfl⟩
    have h := ofDescriptor_wellFormed built
    have ordered : p.order = .ok ["entry", "left", "exit", "right"] := by
      cases built
      rfl
    obtain ⟨comes, least, _⟩ := order_exact h
    exact ⟨p, built, h, comes.mp ⟨_, ordered⟩, ordered, (least _ ordered).1⟩

end Etl.Pipeline
