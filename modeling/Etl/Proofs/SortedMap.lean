import Mathlib.Data.List.Sort
import Etl.SortedMap

/-!
Sorted maps seen through their lookups. Every operation is described by what `get?` gives after it,
and two maps with the same lookups are the same value.
-/

namespace Etl

open Std

namespace SortedMap

variable {κ β γ : Type} [Ord κ]

@[simp]
theorem get?_empty (k : κ) : (empty : SortedMap κ β).get? k = none := rfl

@[simp]
theorem contains_empty (k : κ) : (empty : SortedMap κ β).contains k = false := rfl

theorem contains_iff {m : SortedMap κ β} {k : κ} : m.contains k ↔ ∃ v, m.get? k = some v := by
  rw [contains, Option.isSome_iff_exists]

theorem not_contains_iff {m : SortedMap κ β} {k : κ} :
    m.contains k = false ↔ m.get? k = none := by
  simp [contains]

theorem contains_of_get? {m : SortedMap κ β} {k : κ} {v : β} (h : m.get? k = some v) :
    m.contains k := contains_iff.mpr ⟨v, h⟩

theorem keys_pairwise (m : SortedMap κ β) : m.keys.Pairwise fun a b => compare a b = .lt :=
  List.pairwise_map.mpr m.ascending

theorem length_keys (m : SortedMap κ β) : m.keys.length = m.size := by
  simp [keys, size]

theorem keys_modify (m : SortedMap κ β) (k : κ) (f : β → β) : (m.modify k f).keys = m.keys := by
  rw [keys, keys, modify, List.map_map]
  apply List.map_congr_left
  intro e _
  show (if compare k e.1 == .eq then (e.1, f e.2) else e).1 = e.1
  split <;> rfl

theorem popFirst?_eq_none {m : SortedMap κ β} (h : m.popFirst? = none) (k : κ) :
    m.contains k = false := by
  obtain ⟨l, ascending⟩ := m
  cases l with
  | nil => rfl
  | cons a tail => cases h

variable [LawfulEqOrd κ]

theorem compare_beq_eq [DecidableEq κ] (a b : κ) : (compare a b == .eq) = decide (a = b) := by
  by_cases h : a = b
  · subst h
    simp
  · have ne : compare a b ≠ .eq := fun c => h (LawfulEqCmp.eq_of_compare c)
    simp [h, ne]

theorem get?_eq_some_iff {m : SortedMap κ β} {k : κ} {v : β} :
    m.get? k = some v ↔ (k, v) ∈ m.entries := by
  obtain ⟨l, ascending⟩ := m
  simp only [get?]
  induction l with
  | nil => simp
  | cons e rest ih =>
      obtain ⟨above, below⟩ := List.pairwise_cons.mp ascending
      rw [List.find?_cons]
      by_cases same : compare k e.1 = .eq
      · have key : k = e.1 := LawfulEqCmp.eq_of_compare same
        subst key
        have absent : (e.1, v) ∉ rest := by
          intro member
          have less := above (e.1, v) member
          simp at less
        simp only [ReflCmp.compare_self, beq_self_eq_true, Option.map_some, Option.some.injEq,
          List.mem_cons, absent, or_false]
        exact ⟨fun h => by rw [← h], fun h => by rw [← h]⟩
      · have other : (k, v) ≠ e := fun h => same (by rw [← h]; simp)
        have miss : (compare k e.1 == .eq) = false := by simpa using same
        simp only [miss, List.mem_cons, other, false_or]
        exact ih below

theorem get?_eq_none_iff {m : SortedMap κ β} {k : κ} :
    m.get? k = none ↔ ∀ v, (k, v) ∉ m.entries := by
  rw [Option.eq_none_iff_forall_ne_some]
  exact forall_congr' fun v => not_congr get?_eq_some_iff

theorem get?_erase [DecidableEq κ] (m : SortedMap κ β) (k j : κ) :
    (m.erase k).get? j = if j = k then none else m.get? j := by
  ext w
  rw [get?_eq_some_iff]
  simp only [erase, List.mem_filter, bne, compare_beq_eq, Bool.not_eq_true',
    decide_eq_false_iff_not]
  split
  next same => simp [same]
  next other => simp [Ne.symm other, get?_eq_some_iff]

/-- What is made of each entry is made of the others, where one entry gives nothing. -/
theorem filterMap_entries_erase [DecidableEq κ] {m : SortedMap κ β} {k : κ} {f : κ × β → Option γ}
    (idle : ∀ v, m.get? k = some v → f (k, v) = none) :
    (m.erase k).entries.filterMap f = m.entries.filterMap f := by
  rw [erase, List.filterMap_filter]
  refine List.filterMap_congr fun e member => ?_
  obtain ⟨j, v⟩ := e
  split
  next => rfl
  next same =>
    obtain rfl : k = j := by simpa [bne, compare_beq_eq] using same
    rw [idle v (get?_eq_some_iff.mpr member)]

theorem get?_filter (m : SortedMap κ β) (p : κ → β → Bool) (k : κ) :
    (m.filter p).get? k = (m.get? k).filter (p k) := by
  ext w
  rw [get?_eq_some_iff, Option.filter_eq_some_iff, get?_eq_some_iff]
  simp [filter]

theorem get?_mapValues (f : β → γ) (m : SortedMap κ β) (k : κ) :
    (m.mapValues f).get? k = (m.get? k).map f := by
  ext w
  rw [get?_eq_some_iff, Option.map_eq_some_iff]
  simp only [mapValues, List.mem_map, Prod.mk.injEq]
  constructor
  · rintro ⟨e, member, rfl, rfl⟩
    exact ⟨e.2, get?_eq_some_iff.mpr member, rfl⟩
  · rintro ⟨v, found, rfl⟩
    exact ⟨(k, v), get?_eq_some_iff.mp found, rfl, rfl⟩

theorem get?_modify [DecidableEq κ] (m : SortedMap κ β) (k j : κ) (f : β → β) :
    (m.modify k f).get? j = if j = k then (m.get? j).map f else m.get? j := by
  ext w
  rw [get?_eq_some_iff]
  simp only [modify, List.mem_map, compare_beq_eq, decide_eq_true_eq]
  constructor
  · rintro ⟨e, member, changed⟩
    split at changed
    next same =>
      subst same
      obtain ⟨rfl, rfl⟩ := Prod.mk.inj changed
      simp [get?_eq_some_iff.mpr member]
    next other =>
      subst changed
      simp [Ne.symm other, get?_eq_some_iff.mpr member]
  · intro found
    split at found
    next same =>
      obtain ⟨v, old, rfl⟩ := Option.map_eq_some_iff.mp found
      subst same
      exact ⟨(j, v), get?_eq_some_iff.mp old, by simp⟩
    next other =>
      exact ⟨(j, w), get?_eq_some_iff.mp found, by simp [Ne.symm other]⟩

theorem contains_filter {m : SortedMap κ Unit} {keep : κ → Unit → Bool} {k : κ} :
    (m.filter keep).contains k ↔ keep k () ∧ m.contains k := by
  rw [contains, get?_filter, contains]
  cases m.get? k <;> simp

@[simp]
theorem contains_erase [DecidableEq κ] (m : SortedMap κ β) (k j : κ) :
    (m.erase k).contains j = (!decide (j = k) && m.contains j) := by
  by_cases same : j = k <;> simp [contains, get?_erase, same]

@[simp]
theorem contains_mapValues (f : β → γ) (m : SortedMap κ β) (k : κ) :
    (m.mapValues f).contains k = m.contains k := by
  simp [contains, get?_mapValues]

@[simp]
theorem contains_modify [DecidableEq κ] (m : SortedMap κ β) (k j : κ) (f : β → β) :
    (m.modify k f).contains j = m.contains j := by
  by_cases same : j = k <;> simp [contains, get?_modify, same]

theorem mem_keys {m : SortedMap κ β} {k : κ} : k ∈ m.keys ↔ m.contains k := by
  rw [contains_iff]
  simp only [keys, List.mem_map]
  constructor
  · rintro ⟨e, member, rfl⟩
    exact ⟨e.2, get?_eq_some_iff.mpr member⟩
  · rintro ⟨v, found⟩
    exact ⟨(k, v), get?_eq_some_iff.mp found, rfl⟩

theorem mem_values {m : SortedMap κ β} {v : β} : v ∈ m.values ↔ ∃ k, m.get? k = some v := by
  simp only [values, List.mem_map]
  constructor
  · rintro ⟨e, member, rfl⟩
    exact ⟨e.1, get?_eq_some_iff.mpr member⟩
  · rintro ⟨k, found⟩
    exact ⟨(k, v), get?_eq_some_iff.mp found, rfl⟩

theorem keys_nodup (m : SortedMap κ β) : m.keys.Nodup := by
  apply m.keys_pairwise.imp
  intro a b less same
  subst same
  simp at less

/-- The least entry is taken out of the map. -/
theorem popFirst?_eq_some [DecidableEq κ] {m rest : SortedMap κ β} {e : κ × β}
    (h : m.popFirst? = some (e, rest)) : m.get? e.1 = some e.2 ∧ rest = m.erase e.1 := by
  obtain ⟨l, ascending⟩ := m
  cases l with
  | nil => cases h
  | cons a tail =>
      obtain ⟨rfl, rfl⟩ := Prod.mk.inj (Option.some.inj h)
      obtain ⟨above, below⟩ := List.pairwise_cons.mp ascending
      refine ⟨get?_eq_some_iff.mpr List.mem_cons_self, ?_⟩
      have keep : ∀ b ∈ tail, (compare a.1 b.1 != .eq) = true := by
        intro b member
        simp [above b member]
      simp only [erase, SortedMap.mk.injEq]
      rw [List.filter_cons_of_neg (by simp), List.filter_eq_self.mpr keep]

/-- No key stands in front of the one that is taken out. -/
theorem compare_of_popFirst?_eq_some {m rest : SortedMap κ β} {e : κ × β}
    (h : m.popFirst? = some (e, rest)) {k : κ} (present : m.contains k) :
    k = e.1 ∨ compare e.1 k = .lt := by
  obtain ⟨l, ascending⟩ := m
  cases l with
  | nil => cases h
  | cons a tail =>
      obtain ⟨rfl, rfl⟩ := Prod.mk.inj (Option.some.inj h)
      obtain ⟨v, found⟩ := contains_iff.mp present
      rcases List.mem_cons.mp (get?_eq_some_iff.mp found) with same | later
      · exact .inl (congrArg Prod.fst same)
      · exact .inr ((List.pairwise_cons.mp ascending).1 _ later)

variable [TransOrd κ]

/-- Two ascending lists with the same members are the same list, so lookups determine a map. -/
theorem ext_get? {m n : SortedMap κ β} (h : ∀ k, m.get? k = n.get? k) : m = n := by
  have members : ∀ e, e ∈ m.entries ↔ e ∈ n.entries := by
    intro e
    rw [← get?_eq_some_iff (k := e.1) (v := e.2), h e.1, get?_eq_some_iff]
  have distinct : ∀ m : SortedMap κ β, m.entries.Nodup := by
    intro m
    apply m.ascending.imp
    intro a b less same
    subst same
    simp at less
  have perm : m.entries.Perm n.entries :=
    (List.perm_ext_iff_of_nodup (distinct m) (distinct n)).mpr members
  have same : m.entries = n.entries := by
    refine perm.eq_of_pairwise ?_ m.ascending n.ascending
    intro a b _ _ ab ba
    have := OrientedCmp.gt_iff_lt.mpr ab
    rw [ba] at this
    cases this
  cases m
  cases n
  simpa using same

/-- An entry put into its place leaves all other keys as they were. -/
theorem mem_insertEntry_iff {k : κ} {v : β} {l : List (κ × β)} {e : κ × β}
    (ascending : l.Pairwise fun a b => compare a.1 b.1 = .lt) :
    e ∈ insertEntry k v l ↔ e = (k, v) ∨ (e ∈ l ∧ e.1 ≠ k) := by
  induction l with
  | nil => simp [insertEntry]
  | cons a rest ih =>
      obtain ⟨above, below⟩ := List.pairwise_cons.mp ascending
      have apart : ∀ b ∈ rest, compare k a.1 ≠ .gt → b.1 ≠ k := by
        intro b member first same
        have less := above b member
        rw [same] at less
        exact first (OrientedCmp.gt_iff_lt.mpr less)
      simp only [insertEntry]
      split
      next order =>
        have head : a.1 ≠ k := fun same => by simp [same] at order
        have tail : ∀ b ∈ rest, b.1 ≠ k := fun b member => apart b member (by simp [order])
        simp only [List.mem_cons]
        refine or_congr_right ⟨?_, And.left⟩
        rintro (rfl | member)
        · exact ⟨.inl rfl, head⟩
        · exact ⟨.inr member, tail e member⟩
      next order =>
        have key : k = a.1 := LawfulEqCmp.eq_of_compare order
        have tail : ∀ b ∈ rest, b.1 ≠ k := fun b member => apart b member (by simp [order])
        simp only [List.mem_cons]
        refine or_congr_right ⟨fun member => ⟨.inr member, tail e member⟩, ?_⟩
        rintro ⟨rfl | member, other⟩
        · exact absurd key.symm other
        · exact member
      next order =>
        have head : a.1 ≠ k := fun same => by simp [same] at order
        simp only [List.mem_cons, ih below]
        constructor
        · rintro (rfl | rfl | ⟨member, other⟩)
          · exact .inr ⟨.inl rfl, head⟩
          · exact .inl rfl
          · exact .inr ⟨.inr member, other⟩
        · rintro (rfl | ⟨rfl | member, other⟩)
          · exact .inr (.inl rfl)
          · exact .inl rfl
          · exact .inr (.inr ⟨member, other⟩)

theorem get?_insert [DecidableEq κ] (m : SortedMap κ β) (k j : κ) (v : β) :
    (m.insert k v).get? j = if j = k then some v else m.get? j := by
  ext w
  rw [get?_eq_some_iff]
  simp only [insert, mem_insertEntry_iff m.ascending, Prod.mk.injEq]
  split
  next same =>
    subst same
    simp [eq_comm]
  next other => simp [other, get?_eq_some_iff]

@[simp]
theorem contains_insert [DecidableEq κ] (m : SortedMap κ β) (k j : κ) (v : β) :
    (m.insert k v).contains j = (decide (j = k) || m.contains j) := by
  by_cases same : j = k <;> simp [contains, get?_insert, same]

theorem erase_of_absent [DecidableEq κ] {m : SortedMap κ β} {k : κ}
    (absent : m.contains k = false) : m.erase k = m := by
  apply ext_get?
  intro j
  rw [get?_erase]
  split
  next same => rw [same, not_contains_iff.mp absent]
  next => rfl

theorem modify_eq_insert [DecidableEq κ] {m : SortedMap κ β} {k : κ} {v : β}
    (found : m.get? k = some v) (f : β → β) : m.modify k f = m.insert k (f v) := by
  apply ext_get?
  intro j
  rw [get?_modify, get?_insert]
  split
  next same => rw [same, found, Option.map_some]
  next => rfl

/-- Storing what is there already. -/
theorem insert_of_get? [DecidableEq κ] {m : SortedMap κ β} {k : κ} {v : β}
    (found : m.get? k = some v) : m.insert k v = m := by
  apply ext_get?
  intro j
  rw [get?_insert]
  split
  next same => rw [same, found]
  next => rfl

/-- Another value under a key that is there. -/
theorem keys_insert_of_contains [DecidableEq κ] {m : SortedMap κ β} {k : κ}
    (present : m.contains k) (v : β) : (m.insert k v).keys = m.keys := by
  obtain ⟨old, found⟩ := contains_iff.mp present
  rw [← modify_eq_insert found fun _ => v, keys_modify]

/-- A batch of insertions over distinct keys keeps exactly the batch and the other old entries. -/
theorem get?_insertMany_of_notMem [DecidableEq κ] {l : List (κ × β)} (m : SortedMap κ β) {k : κ}
    (absent : k ∉ l.map (·.1)) : (m.insertMany l).get? k = m.get? k := by
  induction l generalizing m with
  | nil => rfl
  | cons e rest ih =>
      simp only [List.map_cons, List.mem_cons, not_or] at absent
      have step := ih (m.insert e.1 e.2) absent.2
      simp only [insertMany, List.foldl_cons] at step ⊢
      rw [step, get?_insert, if_neg absent.1]

theorem get?_insertMany_of_mem [DecidableEq κ] {l : List (κ × β)} (m : SortedMap κ β) {e : κ × β}
    (distinct : (l.map (·.1)).Nodup) (member : e ∈ l) :
    (m.insertMany l).get? e.1 = some e.2 := by
  induction l generalizing m with
  | nil => cases member
  | cons a rest ih =>
      obtain ⟨fresh, distinct⟩ := List.nodup_cons.mp distinct
      rcases List.mem_cons.mp member with rfl | member
      · have step := get?_insertMany_of_notMem (m.insert e.1 e.2) fresh
        simp only [insertMany, List.foldl_cons] at step ⊢
        rw [step, get?_insert, if_pos rfl]
      · exact ih (m.insert a.1 a.2) distinct member

/-- After a batch over distinct keys, an entry is of the batch or an old one under another key. -/
theorem get?_insertMany_eq_some [DecidableEq κ] {l : List (κ × β)} {m : SortedMap κ β} {k : κ}
    {v : β} (distinct : (l.map (·.1)).Nodup) :
    (m.insertMany l).get? k = some v ↔ (k, v) ∈ l ∨ (k ∉ l.map (·.1) ∧ m.get? k = some v) := by
  by_cases batch : k ∈ l.map (·.1)
  · obtain ⟨⟨k, w⟩, member, rfl⟩ := List.mem_map.mp batch
    have found : (m.insertMany l).get? k = some w := get?_insertMany_of_mem m distinct member
    rw [found]
    constructor
    · rintro ⟨⟩
      exact .inl member
    · rintro (other | ⟨fresh, _⟩)
      · have same : (m.insertMany l).get? k = some v := get?_insertMany_of_mem m distinct other
        exact found.symm.trans same
      · exact absurd batch fresh
  · have absent : (k, v) ∉ l := fun member => batch (List.mem_map.mpr ⟨(k, v), member, rfl⟩)
    rw [get?_insertMany_of_notMem m batch]
    simp [batch, absent]

/-- A map is rebuilt from its entries. -/
theorem ofList_entries [DecidableEq κ] (m : SortedMap κ β) : ofList m.entries = m := by
  apply ext_get?
  intro k
  have distinct : (m.entries.map (·.1)).Nodup := m.keys_nodup
  cases found : m.get? k with
  | some v => exact get?_insertMany_of_mem empty distinct (get?_eq_some_iff.mp found)
  | none =>
      have absent : k ∉ m.entries.map (·.1) := fun member => by
        have present := mem_keys.mp member
        simp [contains, found] at present
      exact get?_insertMany_of_notMem empty absent

end SortedMap

namespace SortedSet

variable {κ : Type} [Ord κ] [LawfulEqOrd κ]

theorem mem_toList {s : SortedSet κ} {k : κ} : k ∈ s.toList ↔ s.contains k := SortedMap.mem_keys

theorem toList_nodup (s : SortedSet κ) : s.toList.Nodup := SortedMap.keys_nodup s

variable [TransOrd κ]

@[simp]
theorem contains_add [DecidableEq κ] (s : SortedSet κ) (k j : κ) :
    (s.add k).contains j = (decide (j = k) || s.contains j) := SortedMap.contains_insert s k j ()

theorem ext_contains {s t : SortedSet κ} (h : ∀ k, s.contains k = t.contains k) : s = t := by
  apply SortedMap.ext_get?
  intro k
  have := h k
  simp only [SortedMap.contains] at this
  cases hs : s.get? k <;> cases ht : t.get? k <;> simp_all

end SortedSet

end Etl
