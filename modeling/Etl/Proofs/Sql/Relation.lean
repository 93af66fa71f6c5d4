import Mathlib.Data.List.Perm.Subperm
import Etl.Proofs.SortedMap
import Etl.Sql.Relation

/-!
Relation names are never taken twice. A free name is the first candidate that nobody has, and the
candidates of one name differ, so there always is one. Names are compared without regard to the case
of ASCII letters throughout.
-/

namespace Etl

namespace Text

theorem lowerAscii_append (a b : String) : lowerAscii (a ++ b) = lowerAscii a ++ lowerAscii b := by
  simp [lowerAscii, String.ofList_append]

/-- Numbers have no letters. -/
theorem lowerAscii_toString (n : Nat) : lowerAscii (toString n) = toString n := by
  have digits : ∀ c ∈ Nat.toDigits 10 n, ¬ ('A' ≤ c ∧ c ≤ 'Z') := by
    intro c member letter
    have digit := Nat.isDigit_of_mem_toDigits (by decide) (by decide) member
    simp only [Char.isDigit, Bool.and_eq_true, decide_eq_true_eq] at digit
    have low : 65 ≤ c.val := letter.1
    have high : c.val ≤ 57 := digit.2
    exact absurd (UInt32.le_trans low high) (by decide)
  rw [Nat.toString_eq_repr, lowerAscii, Nat.toList_repr, Nat.repr_eq_ofList_toDigits]
  apply congrArg String.ofList
  conv_rhs => rw [← List.map_id (Nat.toDigits 10 n)]
  exact List.map_congr_left fun c member => by simp [digits c member]

theorem toString_injective : Function.Injective (toString : Nat → String) := by
  intro m n same
  rw [Nat.toString_eq_repr, Nat.toString_eq_repr] at same
  have digits := congrArg String.toList same
  rw [Nat.toList_repr, Nat.toList_repr] at digits
  simpa only [Nat.ofDigitChars_ten_toDigits] using congrArg (Nat.ofDigitChars 10 · 0) digits

end Text

namespace Sql

open Text

/-- The same name for a database, where the case of letters does not count. -/
def SameName (a b : String) : Prop := lowerAscii a = lowerAscii b

theorem lowerAscii_candidate (base : String) (k : Nat) :
    lowerAscii (candidate base k) = candidate (lowerAscii base) k := by
  cases k with
  | zero => rfl
  | succ k =>
      have mark : lowerAscii "_" = "_" := by decide
      rw [candidate, candidate, lowerAscii_append, lowerAscii_append, lowerAscii_toString, mark]

theorem candidate_injective (base : String) : Function.Injective (candidate base) := by
  have apart : ∀ k, candidate base 0 ≠ candidate base (k + 1) := by
    intro k same
    have lengths := congrArg String.length same
    simp only [candidate, String.length_append] at lengths
    have one : "_".length = 1 := by decide
    omega
  intro j k same
  cases j with
  | zero =>
      cases k with
      | zero => rfl
      | succ k => exact absurd same (apart k)
  | succ j =>
      cases k with
      | zero => exact absurd same.symm (apart j)
      | succ k =>
          rw [candidate, candidate, String.append_right_inj] at same
          exact Nat.add_right_cancel (toString_injective same) ▸ rfl

/-- More candidates are tried than names are taken, so one of them is free. -/
theorem exists_free_candidate (taken : List String) (base : String) :
    ∃ k < taken.length + 1, lowerAscii (candidate base k) ∉ taken := by
  by_contra none
  push Not at none
  have distinct : ((List.range (taken.length + 1)).map fun k =>
      lowerAscii (candidate base k)).Nodup := by
    apply List.nodup_range.map
    intro j k same
    simp only [lowerAscii_candidate] at same
    exact candidate_injective _ same
  have inside : ((List.range (taken.length + 1)).map fun k =>
      lowerAscii (candidate base k)) ⊆ taken := by
    intro name member
    obtain ⟨k, bound, rfl⟩ := List.mem_map.mp member
    exact none k (List.mem_range.mp bound)
  have count := (List.subperm_of_subset distinct inside).length_le
  rw [List.length_map, List.length_range] at count
  omega

/-- A free name is the first candidate that is not taken. -/
theorem freeName_eq_candidate (taken : List String) (base : String) :
    ∃ k, freeName taken base = candidate base k ∧ lowerAscii (candidate base k) ∉ taken ∧
      ∀ j < k, lowerAscii (candidate base j) ∈ taken := by
  simp only [freeName, List.find?_map]
  cases search : (List.range (taken.length + 1)).find?
      ((fun name => !taken.contains (lowerAscii name)) ∘ candidate base) with
  | some k =>
      obtain ⟨free, _, earlier⟩ := List.find?_range_eq_some.mp search
      exact ⟨k, rfl, by simpa using free, fun j less => by simpa using earlier j less⟩
  | none =>
      obtain ⟨k, bound, free⟩ := exists_free_candidate taken base
      have used := List.find?_range_eq_none.mp search k bound
      simp [free] at used

/-- The first name that a node would have. -/
def viewName (id : NodeId) : String := "pw_" ++ sanitize id

theorem assignNames_map_fst (taken : List String) (ids : List NodeId) :
    (assignNames taken ids).map (·.1) = ids := by
  induction ids generalizing taken with
  | nil => rfl
  | cons id ids ih => simp [assignNames, ih]

/-- A node is given one of its own candidates. -/
theorem exists_candidate_of_assigned {taken : List String} {ids : List NodeId}
    {e : NodeId × String} (member : e ∈ assignNames taken ids) :
    ∃ k, e.2 = candidate (viewName e.1) k := by
  induction ids generalizing taken with
  | nil => cases member
  | cons id ids ih =>
      rcases List.mem_cons.mp member with rfl | member
      · obtain ⟨k, chosen, -⟩ := freeName_eq_candidate taken (viewName id)
        exact ⟨k, chosen⟩
      · exact ih member

/-- No assigned name is taken already. -/
theorem assignNames_fresh {taken : List String} {ids : List NodeId} {e : NodeId × String}
    (member : e ∈ assignNames taken ids) : lowerAscii e.2 ∉ taken := by
  induction ids generalizing taken with
  | nil => cases member
  | cons id ids ih =>
      simp only [assignNames] at member
      rcases List.mem_cons.mp member with rfl | member
      · obtain ⟨k, chosen, free, _⟩ := freeName_eq_candidate taken ("pw_" ++ sanitize id)
        rw [chosen]
        exact free
      · exact fun old => ih member (List.mem_cons_of_mem _ old)

/-- Assigned names differ from one another. -/
theorem assignNames_nodup (taken : List String) (ids : List NodeId) :
    ((assignNames taken ids).map fun e => lowerAscii e.2).Nodup := by
  induction ids generalizing taken with
  | nil => exact List.nodup_nil
  | cons id ids ih =>
      simp only [assignNames, List.map_cons]
      refine List.nodup_cons.mpr ⟨fun again => ?_, ih _⟩
      obtain ⟨e, member, same⟩ := List.mem_map.mp again
      exact assignNames_fresh member (by rw [same]; exact List.mem_cons_self)

/-- A name is assigned, up to case, exactly when it is not taken and is the first candidate left at
some node's turn, after the nodes before it have their names. -/
theorem exists_assigned_iff {taken : List String} {ids : List NodeId} {name : String} :
    (∃ e ∈ assignNames taken ids, SameName e.2 name) ↔
      lowerAscii name ∉ taken ∧
        ∃ before id after k, ids = before ++ id :: after ∧
          SameName (candidate (viewName id) k) name ∧
          ∀ j < k, lowerAscii (candidate (viewName id) j) ∈
            taken ++ (assignNames taken before).map fun e => lowerAscii e.2 := by
  induction ids generalizing taken with
  | nil => simp [assignNames]
  | cons first ids ih =>
      obtain ⟨k, chosen, free, used⟩ := freeName_eq_candidate taken (viewName first)
      have head : freeName taken ("pw_" ++ sanitize first) = candidate (viewName first) k := chosen
      simp only [assignNames, List.mem_cons, exists_eq_or_imp, head, ih]
      constructor
      · rintro (same | ⟨fresh, before, id, after, j, rfl, same, earlier⟩)
        · refine ⟨?_, [], first, ids, k, rfl, same, fun j less => ?_⟩
          · rw [← same]
            exact free
          · exact List.mem_append_left _ (used j less)
        · refine ⟨fun old => fresh (.inr old), first :: before, id, after, j, rfl, same,
            fun i less => ?_⟩
          rw [assignNames, head, List.map_cons]
          exact List.perm_middle.mem_iff.mpr (earlier i less)
      · rintro ⟨fresh, before, id, after, j, split, same, earlier⟩
        cases before with
        | nil =>
            -- The first node takes its first free candidate, which is this name.
            obtain ⟨rfl, _⟩ := List.cons.inj split
            have least : j = k := by
              rcases Nat.lt_trichotomy j k with less | equal | greater
              · exact absurd (used j less) (by rw [same]; exact fresh)
              · exact equal
              · have taken := earlier k greater
                simp only [assignNames, List.map_nil, List.append_nil] at taken
                exact absurd taken free
            rw [least] at same
            exact .inl same
        | cons other before =>
            obtain ⟨rfl, rest⟩ := List.cons.inj split
            by_cases own : SameName (candidate (viewName first) k) name
            · exact .inl own
            · refine .inr ⟨?_, before, id, after, j, rest, same, fun i less => ?_⟩
              · rintro (again | old)
                · exact own again.symm
                · exact fresh old
              · have taken := earlier i less
                rw [assignNames, head, List.map_cons] at taken
                exact List.perm_middle.mem_iff.mp taken

variable {p : Pipeline}

theorem lookup_relationNames {id : NodeId} {name : String} :
    (relationNames p).lookup id = some name ↔ (id, name) ∈ relationNames p := by
  have distinct : ((relationNames p).map (·.1)).Nodup := by
    rw [relationNames, assignNames_map_fst]
    exact p.nodes.keys_nodup
  generalize relationNames p = names at distinct
  induction names with
  | nil => simp
  | cons e rest ih =>
      obtain ⟨key, value⟩ := e
      obtain ⟨fresh, distinct⟩ := List.nodup_cons.mp distinct
      rw [List.lookup_cons, List.mem_cons, Prod.mk.injEq]
      by_cases same : id = key
      · subst same
        have absent : (id, name) ∉ rest := fun member => fresh (List.mem_map.mpr ⟨_, member, rfl⟩)
        simp [absent, eq_comm]
      · have differ : (id == key) = false := by simpa using same
        simp [differ, same, ih distinct]

theorem exists_relationName {id : NodeId} (present : p.nodes.contains id) :
    ∃ name, (relationNames p).lookup id = some name := by
  have member : id ∈ (relationNames p).map (·.1) := by
    rw [relationNames, assignNames_map_fst]
    exact SortedMap.mem_keys.mpr present
  obtain ⟨e, found, rfl⟩ := List.mem_map.mp member
  exact ⟨e.2, lookup_relationNames.mpr found⟩

theorem exists_candidate_of_lookup {id : NodeId} {name : String}
    (named : (relationNames p).lookup id = some name) : ∃ k, name = candidate (viewName id) k :=
  exists_candidate_of_assigned (lookup_relationNames.mp named)

/-- Different nodes have different names, also where the case of letters does not count. -/
theorem eq_of_sameName {a b : NodeId} {x y : String} (first : (relationNames p).lookup a = some x)
    (second : (relationNames p).lookup b = some y) (same : SameName x y) : a = b := by
  have distinct := assignNames_nodup ((externalNames p).map lowerAscii) p.nodes.keys
  have one := List.inj_on_of_nodup_map distinct (lookup_relationNames.mp first)
    (lookup_relationNames.mp second) same
  exact congrArg Prod.fst one

theorem relationNames_injective {a b : NodeId} {name : String}
    (first : (relationNames p).lookup a = some name)
    (second : (relationNames p).lookup b = some name) : a = b :=
  eq_of_sameName first second rfl

end Sql

end Etl
