import Etl.Text.Name

/-!
The rules of validation, in the order in which they are checked and reported.
-/

namespace Etl

open Std

inductive Rule where
  | limits
  | typeExistence
  | acyclicity
  | connectivity
  | requiredConfig
  | recommendedConfig
  | targetReachability
  | readiness
deriving DecidableEq, Repr

namespace Rule

def name : Rule → String
  | limits => "limits"
  | typeExistence => "type_existence"
  | acyclicity => "acyclicity"
  | connectivity => "connectivity"
  | requiredConfig => "required_config"
  | recommendedConfig => "recommended_config"
  | targetReachability => "target_reachability"
  | readiness => "readiness"

def all : List Rule :=
  [limits, typeExistence, acyclicity, connectivity, requiredConfig, recommendedConfig,
   targetReachability, readiness]

def known : List (String × Rule) := all.map fun r => (r.name, r)

/-- The place of a rule in the order of reports. -/
def rank : Rule → Nat
  | limits => 0
  | typeExistence => 1
  | acyclicity => 2
  | connectivity => 3
  | requiredConfig => 4
  | recommendedConfig => 5
  | targetReachability => 6
  | readiness => 7

theorem rank_injective {a b : Rule} (h : a.rank = b.rank) : a = b := by
  cases a <;> cases b <;> first | rfl | cases h

instance : Ord Rule := ⟨compareOn rank⟩

instance : TransOrd Rule := inferInstanceAs (TransCmp (compareOn rank))

instance : LawfulEqOrd Rule where
  eq_of_compare {a b} h :=
    have same : compare a.rank b.rank = .eq := h
    rank_injective (LawfulEqCmp.eq_of_compare same)

/-- Rules about the shape of the graph. -/
def isStructural : Rule → Bool
  | limits | typeExistence | acyclicity | connectivity => true
  | _ => false

/-- Rules whose findings no policy can weaken. -/
def isBlocking (r : Rule) : Bool := r.isStructural || r == requiredConfig

def parse (text : String) : Except UnknownName Rule := ofName "rule" known text

end Rule

end Etl
