import Etl.Proofs.Pipeline.Cycle

/-!
The two searches as loops without a bound. A round takes one node from the queue; a node that is
marked already is dropped, any other is marked and its successors are queued, unless the search is
left there. What is still to come shrinks in every round, namely the queue and the edges that leave
unmarked nodes, so every search ends, on cycles too, and the searches give what the loops end with.
-/

namespace Etl.Pipeline

open Relation

/-- The rounds of a search from a queue on. Its result is the marked nodes when the queue runs
empty, and nothing when the search is left at a node where it stops. -/
inductive Rounds (p : Pipeline) (stop : NodeId → Prop) :
    List NodeId → SortedSet NodeId → Nat → Option (SortedSet NodeId) → Prop where
  | exhausted {marked : SortedSet NodeId} : Rounds p stop [] marked 0 (some marked)
  | dropped {id : NodeId} {queue : List NodeId} {marked : SortedSet NodeId} {rounds : Nat}
    {result : Option (SortedSet NodeId)} (again : marked.contains id)
    (rest : Rounds p stop queue marked rounds result) :
    Rounds p stop (id :: queue) marked (rounds + 1) result
  | stopped {id : NodeId} {queue : List NodeId} {marked : SortedSet NodeId}
    (fresh : marked.contains id = false) (here : stop id) :
    Rounds p stop (id :: queue) marked 1 none
  | expanded {id : NodeId} {queue : List NodeId} {marked : SortedSet NodeId} {rounds : Nat}
    {result : Option (SortedSet NodeId)} (fresh : marked.contains id = false) (on : ¬ stop id)
    (rest : Rounds p stop (queue ++ p.successors id) (marked.add id) rounds result) :
    Rounds p stop (id :: queue) marked (rounds + 1) result

variable {p : Pipeline} {stop : NodeId → Prop} {queue : List NodeId} {marked : SortedSet NodeId}
  {rounds : Nat} {result : Option (SortedSet NodeId)}

namespace Rounds

/-- A search can go on in one way only. -/
theorem unique (one : p.Rounds stop queue marked rounds result) {others : Nat}
    {other : Option (SortedSet NodeId)} (another : p.Rounds stop queue marked others other) :
    rounds = others ∧ result = other := by
  induction one generalizing others with
  | exhausted =>
      cases another
      exact ⟨rfl, rfl⟩
  | dropped again _ ih =>
      cases another with
      | dropped _ rest => exact (ih rest).imp_left (congrArg (· + 1))
      | stopped fresh | expanded fresh => simp [again] at fresh
  | stopped fresh here =>
      cases another with
      | dropped again => simp [again] at fresh
      | stopped => exact ⟨rfl, rfl⟩
      | expanded _ on => exact absurd here on
  | expanded fresh on _ ih =>
      cases another with
      | dropped again => simp [again] at fresh
      | stopped _ here => exact absurd here on
      | expanded _ _ rest => exact (ih rest).imp_left (congrArg (· + 1))

theorem rounds_iff (run : p.Rounds stop queue marked rounds result) {n : Nat}
    {other : Option (SortedSet NodeId)} :
    p.Rounds stop queue marked n other ↔ n = rounds ∧ other = result := by
  constructor
  · exact fun another => another.unique run
  · rintro ⟨rfl, rfl⟩
    exact run

/-- Where a search stops nowhere, its queue runs empty. -/
theorem exists_marked (run : p.Rounds (fun _ => False) queue marked rounds result) :
    ∃ all, result = some all := by
  induction run with
  | exhausted => exact ⟨_, rfl⟩
  | dropped _ _ ih => exact ih
  | stopped _ here => exact here.elim
  | expanded _ _ _ ih => exact ih

theorem search_eq (run : p.Rounds stop queue marked rounds result) {all : SortedSet NodeId}
    (whole : result = some all) {fuel : Nat} (enough : rounds ≤ fuel) :
    p.search fuel queue marked = all := by
  induction run generalizing fuel with
  | exhausted =>
      rw [search_nil]
      exact Option.some.inj whole
  | dropped again _ ih =>
      obtain ⟨fuel, rfl⟩ : ∃ less, fuel = less + 1 := ⟨fuel - 1, by omega⟩
      rw [search, if_pos again]
      exact ih whole (Nat.le_of_succ_le_succ enough)
  | stopped => cases whole
  | expanded fresh _ _ ih =>
      obtain ⟨fuel, rfl⟩ : ∃ less, fuel = less + 1 := ⟨fuel - 1, by omega⟩
      rw [search, if_neg (by simp [fresh])]
      exact ih whole (Nat.le_of_succ_le_succ enough)

theorem seek_eq {target : NodeId}
    (run : p.Rounds (fun id => target ∈ p.successors id) queue marked rounds result) {fuel : Nat}
    (enough : rounds ≤ fuel) : p.seek target fuel queue marked = result.isNone := by
  induction run generalizing fuel with
  | exhausted => cases fuel <;> rfl
  | dropped again _ ih =>
      obtain ⟨fuel, rfl⟩ : ∃ less, fuel = less + 1 := ⟨fuel - 1, by omega⟩
      rw [seek, if_pos again]
      exact ih (Nat.le_of_succ_le_succ enough)
  | stopped fresh here =>
      obtain ⟨fuel, rfl⟩ : ∃ less, fuel = less + 1 := ⟨fuel - 1, by omega⟩
      rw [seek, if_neg (by simp [fresh]), if_pos (List.contains_iff_mem.mpr here)]
      rfl
  | expanded fresh on _ ih =>
      obtain ⟨fuel, rfl⟩ : ∃ less, fuel = less + 1 := ⟨fuel - 1, by omega⟩
      rw [seek, if_neg (by simp [fresh]), if_neg (mt List.contains_iff_mem.mp on)]
      exact ih (Nat.le_of_succ_le_succ enough)

end Rounds

/-- Every search ends. Each round takes a node from the queue, and a node that brings its
successors into the queue takes as many edges out of the pending ones. -/
theorem exists_rounds (h : p.WellFormed) (stop : NodeId → Prop) (queue : List NodeId)
    (marked : SortedSet NodeId) {bound : Nat}
    (enough : (p.pending marked).length + queue.length ≤ bound) :
    ∃ rounds ≤ bound, ∃ result, p.Rounds stop queue marked rounds result := by
  induction bound generalizing queue marked with
  | zero =>
      obtain rfl : queue = [] := List.eq_nil_of_length_eq_zero (by omega)
      exact ⟨0, Nat.le_refl 0, _, .exhausted⟩
  | succ bound ih =>
      cases queue with
      | nil => exact ⟨0, Nat.zero_le _, _, .exhausted⟩
      | cons id queue =>
          rw [List.length_cons] at enough
          cases fresh : marked.contains id with
          | true =>
              obtain ⟨rounds, few, result, rest⟩ := ih queue marked (by omega)
              exact ⟨rounds + 1, by omega, result, .dropped fresh rest⟩
          | false =>
              by_cases here : stop id
              · exact ⟨1, by omega, none, .stopped fresh here⟩
              · have fewer := pending_add h fresh
                have less : (p.pending (marked.add id)).length +
                    (queue ++ p.successors id).length ≤ bound := by
                  rw [List.length_append]
                  omega
                obtain ⟨rounds, few, result, rest⟩ := ih _ _ less
                exact ⟨rounds + 1, by omega, result, .expanded fresh here rest⟩

/-- A path of at least one edge begins at a node of the pipeline. -/
theorem containsNode_of_transGen (h : p.WellFormed) {a b : NodeId}
    (path : TransGen p.Joined a b) : p.containsNode a := by
  rw [← follows_eq_joined h] at path
  obtain ⟨next, edge, _⟩ := TransGen.head'_iff.mp path
  exact (h.containsNode_of_mem_successors edge).1

/-- The searches know the paths of a pipeline exactly, also where it has cycles: one node reaches
another exactly if they are the same or a path of at least one edge leads there, and the descendants
are the other nodes to which such a path leads. An unknown node reaches only itself and has no
descendants. Both loops end in one way, with at most as many rounds as there are edges and nodes
queued at the start, and the answers are what they end with. -/
theorem searches_exact (h : p.WellFormed) (a b : NodeId) :
    (p.canReach a b ↔ a = b ∨ TransGen p.Joined a b) ∧
      ((p.descendants a).contains b ↔ b ≠ a ∧ TransGen p.Joined a b) ∧
      (p.containsNode a = false →
        (p.canReach a b ↔ a = b) ∧ p.descendants a = SortedMap.empty) ∧
      (∃ rounds ≤ p.edgeCount + 1, ∃ result, p.canReach a b = (a == b || result.isNone) ∧
        ∀ n other, p.Rounds (fun id => b ∈ p.successors id) [a] SortedMap.empty n other ↔
          n = rounds ∧ other = result) ∧
      ∃ rounds ≤ p.edgeCount + p.outDegree a, ∃ marked, p.descendants a = marked.erase a ∧
        ∀ n other, p.Rounds (fun _ => False) (p.successors a) SortedMap.empty n other ↔
          n = rounds ∧ other = some marked := by
  have reach : ∀ b, p.canReach a b ↔ a = b ∨ TransGen p.Joined a b := fun b => by
    rw [canReach_iff h, follows_eq_joined h, reflTransGen_iff_eq_or_transGen, eq_comm]
  have below : ∀ b, (p.descendants a).contains b ↔ b ≠ a ∧ TransGen p.Joined a b := fun b => by
    rw [contains_descendants_iff h, follows_eq_joined h]
  have start : ∀ queue : List NodeId, (p.pending SortedMap.empty).length + queue.length ≤
      p.edgeCount + queue.length := fun _ => Nat.add_le_add_right (length_pending_le _) _
  refine ⟨reach b, below b, fun unknown => ⟨?_, ?_⟩, ?_, ?_⟩
  · rw [reach]
    refine or_iff_left fun path => ?_
    rw [containsNode_of_transGen h path] at unknown
    cases unknown
  · refine SortedSet.ext_contains fun c => Bool.eq_iff_iff.mpr ?_
    rw [below, SortedMap.contains_empty]
    refine iff_of_false (fun path => ?_) Bool.false_ne_true
    rw [containsNode_of_transGen h path.2] at unknown
    cases unknown
  · obtain ⟨rounds, few, result, run⟩ := exists_rounds h (fun id => b ∈ p.successors id) [a]
      SortedMap.empty (start [a])
    have met : p.seek b (p.edgeCount + 1) [a] SortedMap.empty = result.isNone := run.seek_eq few
    exact ⟨rounds, few, result, by rw [canReach, met], fun _ _ => run.rounds_iff⟩
  · obtain ⟨rounds, few, result, run⟩ := exists_rounds h (fun _ => False) (p.successors a)
      SortedMap.empty (start (p.successors a))
    obtain ⟨marked, rfl⟩ := run.exists_marked
    have all : p.downstream a = marked := run.search_eq rfl (by omega)
    exact ⟨rounds, few, marked, by rw [descendants, all], fun _ _ => run.rounds_iff⟩

/-- A ring with two ways through it, on which one node is queued twice, and a node beside it. -/
def twoWayRing : Descriptor where
  id := "p"
  name := "P"
  nodes :=
    [⟨"A", "transform-sql", "", .ofList []⟩, ⟨"B", "transform-sql", "", .ofList []⟩,
      ⟨"C", "transform-sql", "", .ofList []⟩, ⟨"D", "transform-sql", "", .ofList []⟩,
      ⟨"E", "transform-sql", "", .ofList []⟩]
  edges := [⟨"A", "B"⟩, ⟨"A", "C"⟩, ⟨"B", "D"⟩, ⟨"C", "D"⟩, ⟨"D", "A"⟩]

theorem searches_exact_twoWayRing :
    ∃ p, ofDescriptor twoWayRing = .ok p ∧ p.WellFormed ∧
      TransGen p.Joined "B" "C" ∧ TransGen p.Joined "A" "A" ∧ ¬ TransGen p.Joined "E" "A" ∧
      (p.descendants "A").toList = ["B", "C", "D"] ∧ p.descendants "X" = SortedMap.empty := by
  obtain ⟨p, built⟩ : ∃ p, ofDescriptor twoWayRing = .ok p := ⟨_, rfl⟩
  have h : p.WellFormed := Reachable.wellFormed (.loaded built)
  have facts : p.canReach "B" "C" ∧ p.canReach "A" "D" ∧ p.canReach "E" "A" = false ∧
      p.edges.contains ⟨"D", "A"⟩ ∧ (p.descendants "A").toList = ["B", "C", "D"] ∧
      p.containsNode "X" = false := by
    cases built
    decide +kernel
  obtain ⟨across, round, apart, back, below, unknown⟩ := facts
  have path := ((searches_exact h "B" "C").1.mp across).resolve_left (by decide)
  have ring := ((searches_exact h "A" "D").1.mp round).resolve_left (by decide)
  refine ⟨p, built, h, path, ring.tail back, fun way => ?_, below,
    ((searches_exact h "X" "A").2.2.1 unknown).2⟩
  rw [(searches_exact h "E" "A").1.mpr (.inr way)] at apart
  cases apart

end Etl.Pipeline
