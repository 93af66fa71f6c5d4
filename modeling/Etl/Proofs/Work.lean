import Etl.Work

/-!
Work that has its whole effect or none. It is described by a function that gives the result and the
next state, or an error; an error then means that nothing was done.
-/

namespace Etl.Work

variable {σ τ α : Type} {s : σ}

/-- The end of work that has its whole effect or none. -/
def settle (s : σ) : Except Error (α × σ) → EStateM.Result Error σ α
  | .ok (a, t) => .ok a t
  | .error fault => .error fault s

@[simp]
theorem run_ofExcept_ok (a : α) : (ofExcept (.ok a)).run s = .ok a s := rfl

theorem run_get_bind (next : σ → Work σ α) : (get >>= next).run s = (next s).run s := rfl

theorem run_within_of_ok {part : σ → τ} {replace : σ → τ → σ} {work : Work τ α} {a : α} {t : τ}
    (ended : work.run (part s) = .ok a t) :
    (within part replace work).run s = .ok a (replace s t) := by
  show within part replace work s = _
  rw [within, ended]

theorem run_within_of_error {part : σ → τ} {replace : σ → τ → σ} {work : Work τ α} {fault : Error}
    {t : τ} (ended : work.run (part s) = .error fault t) :
    (within part replace work).run s = .error fault (replace s t) := by
  show within part replace work s = _
  rw [within, ended]

/-- Work on a part has its whole effect or none on the state around it too. -/
theorem run_within {part : σ → τ} (replace : σ → τ → σ) {work : Work τ α}
    {r : Except Error (α × τ)} (settled : work.run (part s) = settle (part s) r)
    (whole : replace s (part s) = s) :
    (within part replace work).run s = settle s (r.map fun end_ => (end_.1, replace s end_.2)) := by
  show within part replace work s = _
  rw [within, settled]
  cases r with
  | ok pair => rfl
  | error fault => exact congrArg (EStateM.Result.error fault) whole

theorem after_of_ok {work : Work σ α} {a : α} {t : σ} (ended : work.run s = .ok a t) :
    work.after s = t := by
  rw [after, ended]

theorem after_of_error {work : Work σ α} {fault : Error} {t : σ}
    (ended : work.run s = .error fault t) : work.after s = t := by
  rw [after, ended]

theorem settle_eq_ok {r : Except Error (α × σ)} {a : α} {t : σ} :
    settle s r = .ok a t ↔ r = .ok (a, t) := by
  rcases r with fault | ⟨b, u⟩ <;> simp [settle]

theorem settle_eq_error {r : Except Error (α × σ)} {fault : Error} {t : σ} :
    settle s r = .error fault t ↔ r = .error fault ∧ t = s := by
  rcases r with fault | ⟨b, u⟩ <;> simp [settle, eq_comm]

end Etl.Work
