/-!
Identifiers and edges. Both are ordered by their text, edges by source and then target, and every
traversal of a pipeline follows this order.
-/

namespace Etl

open Std

/-- Identifies a node within its pipeline. -/
abbrev NodeId := String

/-- Identifies a pipeline. -/
abbrev PipelineId := String

/-- A directed connection of two nodes. -/
structure Edge where
  source : NodeId
  target : NodeId
deriving DecidableEq

namespace Edge

instance : Ord Edge := ⟨compareLex (compareOn source) (compareOn target)⟩

instance : TransOrd Edge :=
  inferInstanceAs (TransCmp (compareLex (compareOn source) (compareOn target)))

instance : LawfulEqOrd Edge where
  eq_of_compare {a b} h := by
    obtain ⟨first, second⟩ := compareLex_eq_eq.mp h
    have source : a.source = b.source := LawfulEqCmp.eq_of_compare first
    have target : a.target = b.target := LawfulEqCmp.eq_of_compare second
    cases a
    cases b
    simp_all

/-- The form that messages show. -/
def describe (e : Edge) : String := e.source ++ " -> " ++ e.target

end Edge

end Etl
