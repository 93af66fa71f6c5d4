import Mathlib.Data.List.Perm.Subperm
import Mathlib.Logic.Relation
import Etl.Proofs.Pipeline.WellFormed
import Etl.Pipeline.Reach

/-!
The searches find exactly the nodes to which paths lead. Soundness needs nothing; completeness needs
that fuel for the edges and the first queue is never used up, because each node brings its edges
into the queue only once.
-/

namespace Etl.Pipeline

open Relation

/-- An edge leads from one node to the next. -/
def Follows (p : Pipeline) (a b : NodeId) : Prop := b ∈ p.successors a

variable {p : Pipeline}

theorem SameGraph.follows_eq {q : Pipeline} (same : p.SameGraph q) (hp : p.WellFormed)
    (hq : q.WellFormed) : p.Follows = q.Follows := by
  funext a b
  rw [Follows, Follows, same.successors_eq hp hq]

theorem search_nil (fuel : Nat) (found : SortedSet NodeId) : p.search fuel [] found = found := by
  cases fuel <;> rfl

/-- Whatever the search collects was there before or lies on a path from the queue. -/
theorem search_sound {fuel : Nat} {queue : List NodeId} {found : SortedSet NodeId} {x : NodeId}
    (collected : (p.search fuel queue found).contains x) :
    found.contains x ∨ ∃ start ∈ queue, ReflTransGen p.Follows start x := by
  induction fuel generalizing queue found with
  | zero => exact .inl collected
  | succ fuel ih =>
      cases queue with
      | nil => exact .inl collected
      | cons id queue =>
          rw [search] at collected
          split at collected
          · rcases ih collected with old | ⟨start, member, path⟩
            · exact .inl old
            · exact .inr ⟨start, List.mem_cons_of_mem _ member, path⟩
          · rcases ih collected with old | ⟨start, member, path⟩
            · rw [SortedSet.contains_add, Bool.or_eq_true, decide_eq_true_eq] at old
              rcases old with rfl | old
              · exact .inr ⟨x, List.mem_cons_self, .refl⟩
              · exact .inl old
            · rcases List.mem_append.mp member with member | next
              · exact .inr ⟨start, List.mem_cons_of_mem _ member, path⟩
              · exact .inr ⟨id, List.mem_cons_self, .head next path⟩

/-- The edges that leave nodes not yet found. -/
def pending (p : Pipeline) (found : SortedSet NodeId) : List Edge :=
  p.edgeList.filter fun e => !found.contains e.source

theorem length_pending_le (found : SortedSet NodeId) :
    (p.pending found).length ≤ p.edgeCount :=
  (List.length_filter_le ..).trans_eq (SortedMap.length_keys _)

/-- A found node takes its edges out of the pending ones, at least as many as it has successors. -/
theorem pending_add (h : p.WellFormed) {found : SortedSet NodeId} {id : NodeId}
    (fresh : found.contains id = false) :
    (p.pending (found.add id)).length + (p.successors id).length ≤ (p.pending found).length := by
  have split := List.length_eq_length_filter_add (l := p.pending found) fun e => e.source == id
  have others : (p.pending found).filter (fun e => !(e.source == id)) =
      p.pending (found.add id) := by
    rw [pending, pending, List.filter_filter]
    congr 1
    funext e
    simp [beq_eq_decide]
  have distinct : ((p.successors id).map (Edge.mk id)).Nodup := by
    apply (p.successors_nodup id).map
    intro a b same
    exact congrArg Edge.target same
  have leaving : (p.successors id).map (Edge.mk id) ⊆
      (p.pending found).filter (fun e => e.source == id) := by
    intro e member
    obtain ⟨next, edge, rfl⟩ := List.mem_map.mp member
    simp [pending, mem_edgeList, h.mem_successors_iff.mp edge, fresh]
  have count := (List.subperm_of_subset distinct leaving).length_le
  rw [List.length_map] at count
  rw [others] at split
  omega

/-- With enough fuel the search keeps what it has, takes in the queue, and ends closed under
edges. The invariant is that edges of found nodes lead to found nodes or into the queue. -/
theorem search_complete (h : p.WellFormed) {fuel : Nat} {queue : List NodeId}
    {found : SortedSet NodeId} (enough : (p.pending found).length + queue.length ≤ fuel)
    (explored : ∀ a b, found.contains a → p.Follows a b → found.contains b ∨ b ∈ queue) :
    (∀ a, found.contains a ∨ a ∈ queue → (p.search fuel queue found).contains a) ∧
      ∀ a b, (p.search fuel queue found).contains a → p.Follows a b →
        (p.search fuel queue found).contains b := by
  induction fuel generalizing queue found with
  | zero =>
      have done : queue = [] := List.eq_nil_of_length_eq_zero (by omega)
      subst done
      simp only [List.not_mem_nil, or_false] at explored ⊢
      exact ⟨fun a member => member, explored⟩
  | succ fuel ih =>
      cases queue with
      | nil =>
          simp only [List.not_mem_nil, or_false, search_nil] at explored ⊢
          exact ⟨fun a member => member, explored⟩
      | cons id queue =>
          rw [List.length_cons] at enough
          rw [search]
          split
          next seen =>
            have less : (p.pending found).length + queue.length ≤ fuel := by omega
            have rest := ih less fun a b member edge => by
              rcases explored a b member edge with old | next
              · exact .inl old
              · rcases List.mem_cons.mp next with rfl | next
                · exact .inl seen
                · exact .inr next
            refine ⟨fun a member => ?_, rest.2⟩
            rcases member with old | member
            · exact rest.1 a (.inl old)
            · rcases List.mem_cons.mp member with rfl | member
              · exact rest.1 a (.inl seen)
              · exact rest.1 a (.inr member)
          next unseen =>
            have fewer := pending_add h (by simpa using unseen)
            have less : (p.pending (found.add id)).length + (queue ++ p.successors id).length ≤
                fuel := by
              rw [List.length_append]
              omega
            have rest := ih less fun a b member edge => by
              rw [SortedSet.contains_add, Bool.or_eq_true, decide_eq_true_eq] at member ⊢
              rcases member with rfl | member
              · exact .inr (List.mem_append_right _ edge)
              · rcases explored a b member edge with old | next
                · exact .inl (.inr old)
                · rcases List.mem_cons.mp next with rfl | next
                  · exact .inl (.inl rfl)
                  · exact .inr (List.mem_append_left _ next)
            refine ⟨fun a member => rest.1 a ?_, rest.2⟩
            rw [SortedSet.contains_add, Bool.or_eq_true, decide_eq_true_eq]
            rcases member with old | member
            · exact .inl (.inr old)
            · rcases List.mem_cons.mp member with rfl | member
              · exact .inl (.inl rfl)
              · exact .inr (List.mem_append_left _ member)

/-- A search forgets nothing that it has found. -/
theorem search_keeps {fuel : Nat} {queue : List NodeId} {found : SortedSet NodeId} {x : NodeId}
    (old : found.contains x) : (p.search fuel queue found).contains x := by
  induction fuel generalizing queue found with
  | zero => exact old
  | succ fuel ih =>
      cases queue with
      | nil => exact old
      | cons id queue =>
          rw [search]
          split
          · exact ih old
          · exact ih (by simp [old])

/-- A search that is left at the first edge to the target misses nothing: the edge is met exactly
if a search to the end would newly find a node with an edge to the target. -/
theorem seek_iff {target : NodeId} {fuel : Nat} {queue : List NodeId} {found : SortedSet NodeId} :
    p.seek target fuel queue found ↔
      ∃ x, (p.search fuel queue found).contains x ∧ found.contains x = false ∧
        p.Follows x target := by
  have nothing (found : SortedSet NodeId) :
      ¬ ∃ x, found.contains x ∧ found.contains x = false ∧ p.Follows x target := by
    rintro ⟨x, old, fresh, -⟩
    rw [fresh] at old
    cases old
  induction fuel generalizing queue found with
  | zero => exact iff_of_false Bool.false_ne_true (nothing found)
  | succ fuel ih =>
      cases queue with
      | nil => exact iff_of_false Bool.false_ne_true (nothing found)
      | cons id queue =>
          rw [seek, search]
          split
          next seen => exact ih
          next unseen =>
            rw [Bool.not_eq_true] at unseen
            by_cases edge : p.Follows id target
            · rw [if_pos (List.contains_iff_mem.mpr edge)]
              exact iff_of_true rfl ⟨id, search_keeps (by simp), unseen, edge⟩
            · rw [if_neg (mt List.contains_iff_mem.mp edge)]
              refine ih.trans (exists_congr fun x => and_congr_right fun _ => ?_)
              -- The node at the head of the queue has no edge to the target, so it does not count.
              by_cases same : x = id
              · subst same
                simp [edge]
              · simp [same]

/-- With enough fuel a search finds what can be reached from its queue. -/
theorem contains_search_iff (h : p.WellFormed) {fuel : Nat} {queue : List NodeId} {x : NodeId}
    (enough : p.edgeCount + queue.length ≤ fuel) :
    (p.search fuel queue SortedMap.empty).contains x ↔
      ∃ start ∈ queue, ReflTransGen p.Follows start x := by
  have bound := (Nat.add_le_add_right (length_pending_le SortedMap.empty) _).trans enough
  have complete := search_complete h bound fun a b member => by simp at member
  constructor
  · intro collected
    rcases search_sound collected with old | path
    · simp at old
    · exact path
  · rintro ⟨start, first, path⟩
    induction path with
    | refl => exact complete.1 start (.inr first)
    | tail _ edge ih => exact complete.2 _ _ ih edge

/-- Downstream lie the nodes to which a path of at least one edge leads. -/
theorem contains_downstream_iff (h : p.WellFormed) {a b : NodeId} :
    (p.downstream a).contains b ↔ TransGen p.Follows a b := by
  rw [downstream, contains_search_iff h (by omega), TransGen.head'_iff]
  rfl

theorem canReach_iff (h : p.WellFormed) {a b : NodeId} :
    p.canReach a b ↔ ReflTransGen p.Follows a b := by
  have met : p.seek b (p.edgeCount + 1) [a] SortedMap.empty ↔ TransGen p.Follows a b := by
    rw [seek_iff, TransGen.tail'_iff]
    refine exists_congr fun x => ?_
    rw [contains_search_iff h (by simp)]
    simp
  rw [canReach, Bool.or_eq_true, beq_iff_eq, met, reflTransGen_iff_eq_or_transGen, eq_comm]

/-- The descendants of a node are the other nodes downstream, also when the node lies on a cycle. -/
theorem contains_descendants_iff (h : p.WellFormed) {a b : NodeId} :
    (p.descendants a).contains b ↔ b ≠ a ∧ TransGen p.Follows a b := by
  rw [descendants, SortedMap.contains_erase, Bool.and_eq_true, contains_downstream_iff h]
  simp

end Etl.Pipeline
