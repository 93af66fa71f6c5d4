import Mathlib.Data.List.Nodup
import Etl.Catalog.Standard

/-!
Sound node types. The checks stop at the first fault of a type; a type without a fault is one whose
names are given and told apart, whose choices have options and whose defaults fit. The built-in types
are sound, although nothing checks them when the catalog is made.
-/

namespace Etl

theorem FieldSpec.misfit?_text_eq_none {field : FieldSpec} {text : String} :
    field.misfit? (.text text) = none ↔
      field.kind = .text ∨ (field.kind = .choice ∧ text ∈ field.options) := by
  unfold misfit?
  cases field.kind <;> simp

/-- A field has a name, a choice has options, and a default is a value that the field accepts. -/
structure FieldSpec.Sound (field : FieldSpec) : Prop where
  named : Text.isBlank field.name = false
  options : field.kind = .choice → field.options ≠ []
  default : ∀ value, field.default = some value → field.misfit? value = none

/-- A type has an identifier, and sound fields of which no two share a name. -/
structure NodeType.Sound (type : NodeType) : Prop where
  identified : Text.isBlank type.id = false
  fields : ∀ field ∈ type.fields, field.Sound
  distinct : (type.fields.map (·.name)).Nodup

namespace NodeType

theorem fieldFault?_eq_none {before : List String} {field : FieldSpec} :
    fieldFault? before field = none ↔ field.Sound ∧ field.name ∉ before := by
  unfold fieldFault?
  split
  next blank =>
    refine iff_of_false (by simp) fun both => ?_
    rw [both.1.named] at blank
    cases blank
  next named =>
    split
    next repeated => exact iff_of_false (by simp) fun both => both.2 (by simpa using repeated)
    next fresh =>
      split
      next bare =>
        refine iff_of_false (by simp) fun both => ?_
        simp only [Bool.and_eq_true, decide_eq_true_eq, List.isEmpty_iff] at bare
        exact both.1.options bare.1 bare.2
      next rich =>
        have options : field.kind = .choice → field.options ≠ [] := by simpa using rich
        cases misfit : field.default.bind field.misfit? with
        | none =>
            have sound : field.Sound :=
              ⟨by simpa using named, options, Option.bind_eq_none_iff.mp misfit⟩
            exact iff_of_true rfl ⟨sound, by simpa using fresh⟩
        | some m =>
            refine iff_of_false (by simp) fun both => ?_
            rw [Option.bind_eq_none_iff.mpr both.1.default] at misfit
            cases misfit

theorem fieldsFault?_eq_none {before : List String} {fields : List FieldSpec} :
    fieldsFault? before fields = none ↔
      (∀ field ∈ fields, field.Sound ∧ field.name ∉ before) ∧ (fields.map (·.name)).Nodup := by
  induction fields generalizing before with
  | nil => simp [fieldsFault?]
  | cons field fields ih =>
      have first : fieldFault? before field = none ↔ field.Sound ∧ field.name ∉ before :=
        fieldFault?_eq_none
      rw [fieldsFault?]
      cases fault : fieldFault? before field with
      | some fault =>
          refine iff_of_false (by simp) fun both => ?_
          rw [first.mpr (both.1 field List.mem_cons_self)] at fault
          cases fault
      | none =>
          have here := first.mp fault
          rw [ih, List.forall_mem_cons, List.map_cons, List.nodup_cons]
          constructor
          · rintro ⟨later, distinct⟩
            refine ⟨⟨here, fun other member => ?_⟩, fun member => ?_, distinct⟩
            · obtain ⟨sound, fresh⟩ := later other member
              exact ⟨sound, fun old => fresh (List.mem_cons_of_mem _ old)⟩
            · obtain ⟨other, member, same⟩ := List.mem_map.mp member
              exact (later other member).2 (same ▸ List.mem_cons_self)
          · rintro ⟨⟨_, later⟩, fresh, distinct⟩
            refine ⟨fun other member => ?_, distinct⟩
            obtain ⟨sound, new⟩ := later other member
            refine ⟨sound, List.not_mem_cons_of_ne_of_not_mem (fun same => ?_) new⟩
            exact fresh (List.mem_map.mpr ⟨other, member, same⟩)

theorem fault?_eq_none {type : NodeType} : type.fault? = none ↔ type.Sound := by
  unfold fault?
  split
  next blank =>
    refine iff_of_false (by simp) fun sound => ?_
    rw [sound.identified] at blank
    cases blank
  next given =>
    have identified : Text.isBlank type.id = false := by simpa using given
    rw [fieldsFault?_eq_none]
    constructor
    · rintro ⟨fields, distinct⟩
      exact ⟨identified, fun field member => (fields field member).1, distinct⟩
    · rintro ⟨_, fields, distinct⟩
      exact ⟨fun field member => ⟨fields field member, List.not_mem_nil⟩, distinct⟩

/-- In a sound type a field is found by its name alone. -/
theorem Sound.field?_eq_some {type : NodeType} (sound : type.Sound) {name : String}
    {field : FieldSpec} : type.field? name = some field ↔ field ∈ type.fields ∧ field.name = name := by
  rw [field?]
  constructor
  · intro found
    exact ⟨List.mem_of_find?_eq_some found, by simpa using List.find?_some found⟩
  · rintro ⟨member, rfl⟩
    cases found : type.fields.find? fun f => f.name == field.name with
    | none => exact absurd (List.find?_eq_none.mp found field member) (by simp)
    | some other =>
        have named : other.name = field.name := by simpa using List.find?_some found
        rw [List.inj_on_of_nodup_map sound.distinct (List.mem_of_find?_eq_some found) member named]

end NodeType

namespace Catalog

theorem sound_of_mem_standardTypes {type : NodeType} (member : type ∈ standardTypes) :
    type.Sound := by
  have clean : ∀ type ∈ standardTypes, type.fault? = none := by decide +kernel
  exact NodeType.fault?_eq_none.mp (clean type member)

theorem standardTypes_nodup : (standardTypes.map (·.id)).Nodup := by decide

end Catalog

end Etl
