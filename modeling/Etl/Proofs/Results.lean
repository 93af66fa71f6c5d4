import Mathlib.Data.List.Forall2

/-!
Computations that can fail, seen through their successes. A sequence succeeds exactly when each of
its parts does.
-/

namespace Etl.Results

variable {ε ε' α β : Type}

theorem pure_eq_ok {a b : α} : (pure a : Except ε α) = .ok b ↔ a = b := by
  simp [pure, Except.pure]

theorem bind_eq_ok {x : Except ε α} {f : α → Except ε β} {b : β} :
    (x >>= f) = .ok b ↔ ∃ a, x = .ok a ∧ f a = .ok b := by
  cases x <;> simp [bind, Except.bind]

theorem map_eq_ok {x : Except ε α} {f : α → β} {b : β} :
    x.map f = .ok b ↔ ∃ a, x = .ok a ∧ f a = b := by
  cases x <;> simp [Except.map]

theorem map_eq_error {x : Except ε α} {f : α → β} {e : ε} :
    x.map f = .error e ↔ x = .error e := by
  cases x <;> simp [Except.map]

theorem mapError_eq_ok {x : Except ε α} {f : ε → ε'} {a : α} :
    x.mapError f = .ok a ↔ x = .ok a := by
  cases x <;> simp [Except.mapError]

/-- What goes on with a value or a default in its place goes on alike from values that are then the
same. -/
theorem bind_eq_of_getD {x y : Except ε (Option α)} {a : α} {f g : Option α → Except ε β}
    (same : x.map (·.getD a) = y.map (·.getD a)) (rest : ∀ o o', o.getD a = o'.getD a → f o = g o') :
    x >>= f = y >>= g := by
  cases x with
  | error e =>
      cases y with
      | error e' => rw [Except.error.inj same]; rfl
      | ok o' => cases same
  | ok o =>
      cases y with
      | error e' => cases same
      | ok o' => exact rest o o' (Except.ok.inj same)

theorem toOption_eq_some {x : Except ε α} {a : α} : x.toOption = some a ↔ x = .ok a := by
  cases x <;> simp [Except.toOption]

theorem mapM_eq_ok {f : α → Except ε β} {items : List α} {results : List β} :
    items.mapM f = .ok results ↔ List.Forall₂ (fun a b => f a = .ok b) items results := by
  induction items generalizing results with
  | nil =>
      rw [List.mapM_nil, List.forall₂_nil_left_iff]
      exact ⟨fun h => (Except.ok.inj h).symm, fun h => congrArg Except.ok h.symm⟩
  | cons a rest ih =>
      rw [List.mapM_cons, bind_eq_ok, List.forall₂_cons_left_iff]
      constructor
      · rintro ⟨b, first, h⟩
        obtain ⟨tail, others, whole⟩ := bind_eq_ok.mp h
        exact ⟨b, tail, first, ih.mp others, (Except.ok.inj whole).symm⟩
      · rintro ⟨b, tail, first, others, rfl⟩
        exact ⟨b, first, bind_eq_ok.mpr ⟨tail, ih.mpr others, rfl⟩⟩

theorem exists_mapM_eq_ok {f : α → Except ε β} {items : List α}
    (each : ∀ a ∈ items, ∃ b, f a = .ok b) : ∃ results, items.mapM f = .ok results := by
  induction items with
  | nil => exact ⟨[], rfl⟩
  | cons a rest ih =>
      obtain ⟨b, first⟩ := each a List.mem_cons_self
      obtain ⟨tail, others⟩ := ih fun x member => each x (List.mem_cons_of_mem _ member)
      exact ⟨b :: tail, mapM_eq_ok.mpr (.cons first (mapM_eq_ok.mp others))⟩

/-- Related lists split at the same place. -/
theorem forall₂_split {R : α → β → Prop} {front : List α} {a : α} {back : List α}
    {results : List β} (h : List.Forall₂ R (front ++ a :: back) results) :
    ∃ before b after, results = before ++ b :: after ∧ List.Forall₂ R front before ∧ R a b ∧
      List.Forall₂ R back after := by
  induction front generalizing results with
  | nil =>
      obtain ⟨b, after, here, rest, rfl⟩ := List.forall₂_cons_left_iff.mp h
      exact ⟨[], b, after, rfl, .nil, here, rest⟩
  | cons first front ih =>
      obtain ⟨x, tail, here, rest, rfl⟩ := List.forall₂_cons_left_iff.mp h
      obtain ⟨before, b, after, rfl, left, mid, right⟩ := ih rest
      exact ⟨x :: before, b, after, rfl, .cons here left, mid, right⟩

theorem exists_of_mem_forall₂ {R : α → β → Prop} {items : List α} {results : List β} {b : β}
    (h : List.Forall₂ R items results) (member : b ∈ results) : ∃ a ∈ items, R a b := by
  obtain ⟨before, after, rfl⟩ := List.append_of_mem member
  obtain ⟨front, a, back, rfl, _, here, _⟩ := forall₂_split h.flip
  exact ⟨a, by simp, here⟩

/-- What is said alike about related things is said alike about lists of them. -/
theorem flatMap_eq_of_forall₂ {γ : Type} {R : α → β → Prop} {items : List α} {results : List β}
    {f : α → List γ} {g : β → List γ} (related : List.Forall₂ R items results)
    (same : ∀ a b, R a b → f a = g b) : items.flatMap f = results.flatMap g := by
  have said : List.Forall₂ (· = ·) (items.flatMap f) (results.flatMap g) :=
    List.rel_flatMap related fun a b here => List.forall₂_eq_eq_eq ▸ same a b here
  exact List.forall₂_eq_eq_eq ▸ said

/-- The same for those that are kept, where related things are kept together. -/
theorem map_filter_eq_of_forall₂ {γ : Type} {R : α → β → Prop} {items : List α}
    {results : List β} {keep : α → Bool} {keep' : β → Bool} {f : α → γ} {g : β → γ}
    (related : List.Forall₂ R items results) (kept : ∀ a b, R a b → keep a = keep' b)
    (same : ∀ a b, R a b → f a = g b) : (items.filter keep).map f = (results.filter keep').map g := by
  have together := List.rel_filter (fun a b here => Bool.eq_iff_iff.mp (kept a b here)) related
  have said : List.Forall₂ (· = ·) ((items.filter keep).map f) ((results.filter keep').map g) :=
    List.rel_map same together
  exact List.forall₂_eq_eq_eq ▸ said

/-- Two lists that are each related to a third are related to each other. -/
theorem forall₂_of_forall₂ {γ : Type} {R : α → β → Prop} {S : α → γ → Prop} {T : β → γ → Prop}
    (each : ∀ a b c, R a b → S a c → T b c) {items : List α} {results : List β} {others : List γ}
    (left : List.Forall₂ R items results) (right : List.Forall₂ S items others) :
    List.Forall₂ T results others := by
  induction left generalizing others with
  | nil =>
      cases right
      exact .nil
  | cons first _ ih =>
      obtain ⟨c, tail, here, rest, rfl⟩ := List.forall₂_cons_left_iff.mp right
      exact .cons (each _ _ _ first here) (ih rest)

end Etl.Results
