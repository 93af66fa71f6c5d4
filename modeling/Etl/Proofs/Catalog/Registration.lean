import Etl.Catalog.Batch
import Etl.Proofs.Catalog.Sound
import Etl.Proofs.Results
import Etl.Proofs.SortedMap
import Etl.Proofs.Work

/-!
Registering types. A batch is taken as a whole or not at all: it is refused exactly when one of its
types is not sound or has an identifier that another type has. So whatever batches a catalog went
through, it holds sound types under their own identifiers, and the first of each identifier stays.
-/

namespace Etl.Catalog

open Work

variable {c d : Catalog} {batch : List NodeType}

/-- Each type is sound and stands under its own identifier. -/
def Sound (c : Catalog) : Prop := ∀ id type, c.get? id = some type → type.id = id ∧ type.Sound

/-- A batch of sound types whose identifiers are new and different. -/
structure Admissible (c : Catalog) (batch : List NodeType) : Prop where
  sound : ∀ type ∈ batch, type.Sound
  fresh : ∀ type ∈ batch, c.contains type.id = false
  distinct : (batch.map (·.id)).Nodup

theorem admissible_cons {type : NodeType} :
    c.Admissible (type :: batch) ↔ type.Sound ∧ c.contains type.id = false ∧
      (∀ other ∈ batch, other.id ≠ type.id) ∧ c.Admissible batch := by
  have apart : type.id ∉ batch.map (·.id) ↔ ∀ other ∈ batch, other.id ≠ type.id := by simp
  constructor
  · rintro ⟨sound, fresh, distinct⟩
    rw [List.forall_mem_cons] at sound fresh
    rw [List.map_cons, List.nodup_cons, apart] at distinct
    exact ⟨sound.1, fresh.1, distinct.1, sound.2, fresh.2, distinct.2⟩
  · rintro ⟨sound, fresh, other, rest⟩
    refine ⟨List.forall_mem_cons.mpr ⟨sound, rest.sound⟩,
      List.forall_mem_cons.mpr ⟨fresh, rest.fresh⟩, ?_⟩
    rw [List.map_cons, List.nodup_cons, apart]
    exact ⟨other, rest.distinct⟩

/-- The check of a batch finds no fault exactly where there is none; it keeps the identifiers that it
has passed. -/
theorem batchFault?_eq_none {before : List String} :
    c.batchFault? before batch = none ↔
      c.Admissible batch ∧ ∀ type ∈ batch, type.id ∉ before := by
  induction batch generalizing before with
  | nil => exact iff_of_true rfl ⟨⟨by simp, by simp, by simp⟩, by simp⟩
  | cons type types ih =>
      rw [batchFault?, admissible_cons, List.forall_mem_cons]
      cases fault : type.fault? with
      | some fault =>
          refine iff_of_false (by simp) fun both => ?_
          rw [NodeType.fault?_eq_none.mpr both.1.1] at fault
          cases fault
      | none =>
          have sound := NodeType.fault?_eq_none.mp fault
          simp only
          split
          next taken =>
            refine iff_of_false (by simp) fun both => ?_
            simp [both.1.2.1, both.2.1] at taken
          next free =>
            simp only [Bool.or_eq_true, List.contains_eq_mem, decide_eq_true_eq, not_or,
              Bool.not_eq_true] at free
            rw [ih]
            constructor
            · rintro ⟨rest, new⟩
              refine ⟨⟨sound, free.1, fun other member => ?_, rest⟩, free.2, fun other member => ?_⟩
              · exact List.ne_of_not_mem_cons (new other member)
              · exact List.not_mem_of_not_mem_cons (new other member)
            · rintro ⟨⟨_, _, apart, rest⟩, _, new⟩
              exact ⟨rest, fun other member =>
                List.not_mem_cons_of_ne_of_not_mem (apart other member) (new other member)⟩

/-- Looking at a batch changes nothing. -/
theorem run_checkBatch (before : List String) :
    (checkBatch before batch).run c =
      match c.batchFault? before batch with
      | some fault => .error fault c
      | none => .ok () c := by
  induction batch generalizing before with
  | nil => rfl
  | cons type types ih =>
      unfold checkBatch batchFault?
      cases type.fault? with
      | some fault => rfl
      | none =>
          simp only [EStateM.run_bind, EStateM.run_get]
          split
          · rfl
          · exact ih (type.id :: before)

theorem run_forM_put :
    (batch.forM put).run c =
      .ok () ⟨c.types.insertMany (batch.map fun type => (type.id, type))⟩ := by
  induction batch generalizing c with
  | nil => rfl
  | cons type types ih => exact ih

/-- In place, a batch has its whole effect, or it is refused and nothing was done. -/
theorem run_register (batch : List NodeType) :
    (register batch).run c = settle c ((c.extend batch).map (Prod.mk ())) := by
  rw [register, EStateM.run_bind, run_checkBatch, extend]
  cases c.batchFault? [] batch with
  | some fault => rfl
  | none => exact run_forM_put

/-- The catalog with all types of a batch. -/
def withBatch (c : Catalog) (batch : List NodeType) : Catalog :=
  ⟨c.types.insertMany (batch.map fun type => (type.id, type))⟩

theorem get?_withBatch (h : c.Admissible batch) {id : String} {type : NodeType} :
    (c.withBatch batch).get? id = some type ↔
      c.get? id = some type ∨ (type ∈ batch ∧ type.id = id) := by
  have keys : (batch.map fun type => (type.id, type)).map (·.1) = batch.map (·.id) := by
    rw [List.map_map]
    rfl
  have pairs : (id, type) ∈ batch.map (fun type => (type.id, type)) ↔
      type ∈ batch ∧ type.id = id := by simp [and_comm]
  have old : c.get? id = some type → id ∉ batch.map (·.id) := by
    intro found member
    obtain ⟨other, listed, rfl⟩ := List.mem_map.mp member
    have absent : c.get? other.id = none := SortedMap.not_contains_iff.mp (h.fresh other listed)
    rw [absent] at found
    cases found
  have lookup := SortedMap.get?_insertMany_eq_some (m := c.types) (k := id) (v := type)
    (keys ▸ h.distinct)
  rw [withBatch, get?, lookup, pairs, keys, or_comm]
  exact or_congr_left (and_iff_right_of_imp old)

theorem run_register_eq_ok :
    (register batch).run c = .ok () d ↔ c.Admissible batch ∧ d = c.withBatch batch := by
  have clean : c.batchFault? [] batch = none ↔ c.Admissible batch :=
    batchFault?_eq_none.trans (and_iff_left (by simp))
  rw [run_register, settle_eq_ok, ← clean, extend]
  cases c.batchFault? [] batch <;> simp [Except.map, withBatch, eq_comm]

theorem run_register_eq_error {fault : Error} (refused : (register batch).run c = .error fault d) :
    ¬ c.Admissible batch ∧ d = c := by
  constructor
  · intro h
    rw [run_register_eq_ok.mpr ⟨h, rfl⟩] at refused
    cases refused
  · rw [run_register, settle_eq_error] at refused
    exact refused.2

theorem exists_run_register_eq_error (h : ¬ c.Admissible batch) :
    ∃ fault, (register batch).run c = .error fault c := by
  cases outcome : (register batch).run c with
  | ok _ d => exact absurd (run_register_eq_ok.mp outcome).1 h
  | error fault d => exact ⟨fault, by rw [(run_register_eq_error outcome).2]⟩

theorem empty_sound : empty.Sound := by
  intro id type found
  cases found

theorem Sound.withBatch (sound : c.Sound) (h : c.Admissible batch) : (c.withBatch batch).Sound := by
  intro id type found
  rcases (get?_withBatch h).mp found with old | ⟨member, same⟩
  · exact sound id type old
  · exact ⟨same, h.sound type member⟩

/-- The built-in types could have been registered: they are a batch that an empty catalog takes. -/
theorem standard_sound : standard.Sound :=
  empty_sound.withBatch
    { sound := fun _ member => sound_of_mem_standardTypes member
      fresh := fun _ _ => rfl
      distinct := standardTypes_nodup }

theorem Sound.register (sound : c.Sound) (batch : List NodeType) :
    ((register batch).after c).Sound := by
  cases outcome : (Catalog.register batch).run c with
  | ok _ d =>
      obtain ⟨h, rfl⟩ := run_register_eq_ok.mp outcome
      rw [after_of_ok outcome]
      exact sound.withBatch h
  | error fault d =>
      rw [after_of_error outcome, (run_register_eq_error outcome).2]
      exact sound

theorem Sound.registerAll (sound : c.Sound) (batches : List (List NodeType)) :
    (c.registerAll batches).Sound := by
  induction batches generalizing c with
  | nil => exact sound
  | cons batch batches ih => exact ih (sound.register batch)

/-- The catalogs that come about: they start empty or with the built-in types, and go through batches
of which some may be refused. -/
def Arises (c : Catalog) : Prop :=
  ∃ first batches, (first = empty ∨ first = standard) ∧ registerAll first batches = c

theorem Arises.sound (h : c.Arises) : c.Sound := by
  obtain ⟨first, batches, rfl | rfl, rfl⟩ := h
  · exact empty_sound.registerAll batches
  · exact standard_sound.registerAll batches

/-- A catalog holds sound types only, each under its own identifier. A batch is refused exactly when
one of its types is not sound, is registered already or comes twice, and then nothing is registered;
otherwise all old types stay as they are and exactly the types of the batch come to them. -/
theorem register_exact (h : c.Arises) :
    (∀ id type, c.get? id = some type → type.id = id ∧ type.Sound) ∧
      ∀ batch : List NodeType,
        ((∃ fault d, (register batch).run c = .error fault d) ↔
          (∃ type ∈ batch, ¬ type.Sound ∨ c.contains type.id) ∨ ¬ (batch.map (·.id)).Nodup) ∧
        (∀ fault d, (register batch).run c = .error fault d → d = c) ∧
        ∀ d, (register batch).run c = .ok () d →
          d.Arises ∧ ∀ id type, d.get? id = some type ↔
            c.get? id = some type ∨ (type ∈ batch ∧ type.id = id) := by
  refine ⟨h.sound, fun batch => ⟨⟨?_, ?_⟩, ?_, ?_⟩⟩
  · rintro ⟨fault, d, refused⟩
    by_contra clean
    push Not at clean
    obtain ⟨each, distinct⟩ := clean
    refine (run_register_eq_error refused).1
      ⟨fun type member => (each type member).1, fun type member => ?_, distinct⟩
    simpa using (each type member).2
  · intro fault
    have blocked : ¬ c.Admissible batch := by
      intro clean
      rcases fault with ⟨type, member, unsound | taken⟩ | repeated
      · exact unsound (clean.sound type member)
      · rw [clean.fresh type member] at taken
        cases taken
      · exact repeated clean.distinct
    obtain ⟨fault, refused⟩ := exists_run_register_eq_error blocked
    exact ⟨fault, c, refused⟩
  · exact fun fault d refused => (run_register_eq_error refused).2
  · intro d accepted
    obtain ⟨clean, rfl⟩ := run_register_eq_ok.mp accepted
    obtain ⟨first, batches, start, rfl⟩ := h
    refine ⟨⟨first, batches ++ [batch], start, ?_⟩, fun id type => get?_withBatch clean⟩
    rw [registerAll, List.foldl_append]
    exact after_of_ok accepted

/-- A type with a choice that has a default. -/
def dedupe : NodeType where
  id := "transform-dedupe"
  category := .transform
  displayName := "Deduplicate"
  description := ""
  fields :=
    [.mandatory "keys" .list,
     { FieldSpec.voluntary "keep" .choice with
       options := ["first", "last"]
       default := some (.text "first") }]

/-- A batch is taken once; a second time it is refused, although its first type would be new. -/
theorem register_exact_dedupe :
    let c := registerAll standard [[dedupe]]
    c.Arises ∧ c.get? "transform-dedupe" = some dedupe ∧ dedupe.Sound ∧
      ∃ fault, (register [{ dedupe with id := "transform-unique" }, dedupe]).run c =
        .error fault c := by
  intro c
  have start : standard.Arises := ⟨standard, [], .inr rfl, rfl⟩
  have first : (register [dedupe]).run standard = .ok () c := rfl
  obtain ⟨arises, lookup⟩ := ((register_exact start).2 [dedupe]).2.2 c first
  have found : c.get? "transform-dedupe" = some dedupe :=
    (lookup _ _).mpr (.inr ⟨List.mem_singleton_self dedupe, rfl⟩)
  obtain ⟨sound, batches⟩ := register_exact arises
  obtain ⟨refused, kept, _⟩ := batches [{ dedupe with id := "transform-unique" }, dedupe]
  have present : c.contains dedupe.id := SortedMap.contains_of_get? found
  obtain ⟨fault, d, failed⟩ := refused.mpr (.inl ⟨dedupe, by simp, .inr present⟩)
  have same := kept fault d failed
  rw [same] at failed
  exact ⟨arises, found, (sound _ _ found).2, fault, failed⟩

end Etl.Catalog
