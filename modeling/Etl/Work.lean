import Etl.Error

/-!
Work on a state in place, as steps that come one after the other. Work ends with a result or an
error, and in both cases with the state as it then is.
-/

namespace Etl

abbrev Work (σ α : Type) := EStateM Error σ α

namespace Work

variable {σ τ α : Type}

/-- Stops the work at an error. -/
def ofExcept : Except Error α → Work σ α
  | .ok a => return a
  | .error fault => throw fault

/-- Works on a part of a state. What is done to the part until an error is done to the state. -/
def within (part : σ → τ) (replace : σ → τ → σ) (work : Work τ α) : Work σ α := fun s =>
  match work.run (part s) with
  | .ok a t => .ok a (replace s t)
  | .error fault t => .error fault (replace s t)

/-- The state in which work ends. -/
def after (work : Work σ α) (s : σ) : σ :=
  match work.run s with
  | .ok _ s => s
  | .error _ s => s

end Work

end Etl
