/-!
Finite maps and sets kept as strictly ascending lists of keys. Only one ascending list holds given
contents, so two maps with equal lookups are equal values, and every traversal is in key order.
-/

namespace Etl

open Std

/-- A finite map: its entries in strictly ascending key order. -/
structure SortedMap (κ β : Type) [Ord κ] where
  entries : List (κ × β)
  ascending : entries.Pairwise fun a b => compare a.1 b.1 = .lt
deriving DecidableEq

/-- A finite set: a map that holds nothing beside its keys. -/
abbrev SortedSet (κ : Type) [Ord κ] := SortedMap κ Unit

namespace SortedMap

variable {κ β γ : Type} [Ord κ]

/-- Puts one entry into its place, replacing an entry with an equal key. -/
def insertEntry (k : κ) (v : β) : List (κ × β) → List (κ × β)
  | [] => [(k, v)]
  | e :: rest =>
    match compare k e.1 with
    | .lt => (k, v) :: e :: rest
    | .eq => (k, v) :: rest
    | .gt => e :: insertEntry k v rest

theorem mem_insertEntry {k : κ} {v : β} {l : List (κ × β)} {e : κ × β}
    (h : e ∈ insertEntry k v l) : e = (k, v) ∨ e ∈ l := by
  induction l with
  | nil => exact .inl (by simpa [insertEntry] using h)
  | cons a rest ih =>
    simp only [insertEntry] at h
    split at h
    · simpa using h
    · rcases List.mem_cons.mp h with rfl | h
      · exact .inl rfl
      · exact .inr (List.mem_cons_of_mem _ h)
    · rcases List.mem_cons.mp h with rfl | h
      · exact .inr List.mem_cons_self
      · rcases ih h with h | h
        · exact .inl h
        · exact .inr (List.mem_cons_of_mem _ h)

theorem insertEntry_ascending [TransOrd κ] [LawfulEqOrd κ] (k : κ) (v : β) {l : List (κ × β)}
    (h : l.Pairwise fun a b => compare a.1 b.1 = .lt) :
    (insertEntry k v l).Pairwise fun a b => compare a.1 b.1 = .lt := by
  induction l with
  | nil => simp [insertEntry]
  | cons a rest ih =>
    obtain ⟨above, below⟩ := List.pairwise_cons.mp h
    simp only [insertEntry]
    split
    next order =>
      refine List.pairwise_cons.mpr ⟨fun e member => ?_, h⟩
      rcases List.mem_cons.mp member with rfl | member
      · exact order
      · exact TransCmp.lt_trans order (above e member)
    next order =>
      have same : k = a.1 := LawfulEqCmp.eq_of_compare order
      subst same
      exact List.pairwise_cons.mpr ⟨above, below⟩
    next order =>
      refine List.pairwise_cons.mpr ⟨fun e member => ?_, ih below⟩
      rcases mem_insertEntry member with rfl | member
      · exact OrientedCmp.gt_iff_lt.mp order
      · exact above e member

/-- The map without entries. -/
def empty : SortedMap κ β := ⟨[], .nil⟩

instance : EmptyCollection (SortedMap κ β) := ⟨empty⟩
instance : Inhabited (SortedMap κ β) := ⟨empty⟩

/-- The value stored under a key. -/
def get? (m : SortedMap κ β) (k : κ) : Option β :=
  (m.entries.find? fun e => compare k e.1 == .eq).map (·.2)

/-- Whether a key is present. -/
def contains (m : SortedMap κ β) (k : κ) : Bool :=
  (m.get? k).isSome

/-- The keys, ascending. -/
def keys (m : SortedMap κ β) : List κ := m.entries.map (·.1)

/-- The values in ascending order of their keys. -/
def values (m : SortedMap κ β) : List β := m.entries.map (·.2)

/-- Number of entries. -/
def size (m : SortedMap κ β) : Nat := m.entries.length

def isEmpty (m : SortedMap κ β) : Bool := m.entries.isEmpty

/-- Stores a value, replacing the one under an equal key. -/
def insert [TransOrd κ] [LawfulEqOrd κ] (m : SortedMap κ β) (k : κ) (v : β) : SortedMap κ β :=
  ⟨insertEntry k v m.entries, insertEntry_ascending k v m.ascending⟩

/-- Removes a key; an absent key changes nothing. -/
def erase (m : SortedMap κ β) (k : κ) : SortedMap κ β :=
  ⟨m.entries.filter fun e => compare k e.1 != .eq, m.ascending.filter _⟩

/-- Keeps the entries whose key and value satisfy a test. -/
def filter (m : SortedMap κ β) (p : κ → β → Bool) : SortedMap κ β :=
  ⟨m.entries.filter fun e => p e.1 e.2, m.ascending.filter _⟩

/-- The least key with its value, and the map without it. -/
def popFirst? (m : SortedMap κ β) : Option ((κ × β) × SortedMap κ β) :=
  match m with
  | ⟨[], _⟩ => none
  | ⟨e :: rest, ascending⟩ => some (e, ⟨rest, (List.pairwise_cons.mp ascending).2⟩)

/-- Applies a function to every value and keeps the keys. -/
def mapValues (f : β → γ) (m : SortedMap κ β) : SortedMap κ γ :=
  ⟨m.entries.map fun e => (e.1, f e.2), List.pairwise_map.mpr m.ascending⟩

/-- Applies a function to the value under one key, if there is one. -/
def modify (m : SortedMap κ β) (k : κ) (f : β → β) : SortedMap κ β :=
  ⟨m.entries.map fun e => if compare k e.1 == .eq then (e.1, f e.2) else e, by
    refine List.pairwise_map.mpr (m.ascending.imp ?_)
    intro a b h
    by_cases ha : compare k a.1 == .eq <;> by_cases hb : compare k b.1 == .eq <;>
      simpa [ha, hb] using h⟩

/-- Inserts all entries of a list in order, so that the last of equal keys stays. -/
def insertMany [TransOrd κ] [LawfulEqOrd κ] (m : SortedMap κ β) (l : List (κ × β)) :
    SortedMap κ β :=
  l.foldl (fun m e => m.insert e.1 e.2) m

/-- Builds a map from a list, the last of equal keys winning. -/
def ofList [TransOrd κ] [LawfulEqOrd κ] (l : List (κ × β)) : SortedMap κ β :=
  empty.insertMany l

end SortedMap

namespace SortedSet

variable {κ : Type} [Ord κ]

/-- The members, ascending. -/
def toList (s : SortedSet κ) : List κ := s.keys

/-- Adds one member. -/
def add [TransOrd κ] [LawfulEqOrd κ] (s : SortedSet κ) (k : κ) : SortedSet κ := s.insert k ()

/-- Builds a set from a list. -/
def ofList [TransOrd κ] [LawfulEqOrd κ] (l : List κ) : SortedSet κ :=
  l.foldl (fun s k => s.add k) SortedMap.empty

end SortedSet

end Etl
