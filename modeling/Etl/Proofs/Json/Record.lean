import Etl.Json.Shape
import Etl.Proofs.Json.Text

/-!
Readers on the trees of values. A reader that finds every part of a value again finds the whole:
lists and objects are read entry by entry, and a record field by field.
-/

namespace Etl.Json

open Results

variable {α : Type}

theorem indented_append_break (j : Json) :
    j.indented ++ "\n" = String.ofList (j.write .indented 0 ++ ['\n']) := by
  rw [indented, String.ofList_append]

/-- What a reader makes of the tree of a value, it makes of the value's text, also where blanks
follow the text. -/
theorem Reader.ofText_write {spacing : Spacing} (blank : spacing.IsBlank) {read : Reader α}
    {j : Json} {a : α} (readable : Readable j) (found : read j.raw = .ok a) {behind : List Char}
    (spaces : ∀ c ∈ behind, isSpace c) :
    Reader.ofText read (String.ofList (j.write spacing 0 ++ behind)) = .ok a := by
  rw [Reader.ofText, Json.ofText_write blank readable spaces]
  simp only [found]
  rfl

theorem Reader.ofText_indented {read : Reader α} {j : Json} {a : α} (readable : Readable j)
    (found : read j.raw = .ok a) : Reader.ofText read (j.indented ++ "\n") = .ok a := by
  rw [indented_append_break]
  apply Reader.ofText_write Spacing.indented_isBlank readable found
  intro c member
  rw [List.mem_singleton.mp member]
  rfl

/-- A value that its reader finds again in the text written for it, with blanks or without. -/
structure Survives (read : Reader α) (toJson : α → Json) (a : α) : Prop where
  compact : Reader.ofText read (toJson a).compact = .ok a
  indented : Reader.ofText read (toJson a).indented = .ok a

theorem Survives.of_raw {read : Reader α} {toJson : α → Json} {a : α}
    (readable : Readable (toJson a)) (found : read (toJson a).raw = .ok a) :
    Survives read toJson a := by
  have written : ∀ spacing : Spacing, spacing.IsBlank →
      Reader.ofText read (String.ofList ((toJson a).write spacing 0)) = .ok a := by
    intro spacing blank
    have nothing : ∀ c ∈ ([] : List Char), isSpace c := fun _ member => absurd member (by simp)
    have text := Reader.ofText_write blank readable found nothing
    rwa [List.append_nil] at text
  exact ⟨written _ Spacing.compact_isBlank, written _ Spacing.indented_isBlank⟩

/-- A name that the table knows is read as what it stands for. -/
theorem Reader.oneOf_raw {known : List (String × α)} {name : String} {a : α}
    (named : known.lookup name = some a) : Reader.oneOf known (raw (.text name)) = .ok a := by
  have found : Reader.variant known name = .ok a := by rw [Reader.variant, named]
  rw [raw, Reader.oneOf]
  exact found

/-- A value that is written at all is never taken for an absent one. -/
theorem Reader.optional_raw {read : Reader α} {j : Json} {a : α} (present : j ≠ .null)
    (found : read j.raw = .ok a) : Reader.optional read j.raw = .ok (some a) := by
  cases j with
  | null => exact absurd rfl present
  | bool _ | number _ | text _ | list _ | object _ => exact map_eq_ok.mpr ⟨a, found, rfl⟩

theorem Reader.list_raw {read : Reader α} {toJson : α → Json} {items : List α}
    (each : ∀ a ∈ items, read (toJson a).raw = .ok a) :
    Reader.list read (raw (.list (items.map toJson))) = .ok items := by
  have values : (rawItems (items.map toJson)).mapM read = .ok items := by
    rw [rawItems_eq_map, List.map_map, mapM_eq_ok, List.forall₂_map_left_iff, List.forall₂_same]
    exact each
  rw [raw, Reader.list, values]
  rfl

theorem Reader.object_raw {κ : Type} {readKey : Reader κ} {read : Reader α} (name : κ → String)
    (toJson : α → Json) {members : List (κ × α)}
    (keys : ∀ m ∈ members, readKey (raw (.text (name m.1))) = .ok m.1)
    (each : ∀ m ∈ members, read (toJson m.2).raw = .ok m.2) :
    Reader.object readKey read (raw (.object (members.map fun m => (name m.1, toJson m.2)))) =
      .ok members := by
  rw [raw, Reader.object]
  refine bind_eq_ok.mpr ⟨members, ?_, rfl⟩
  rw [rawMembers_eq_map, List.map_map, mapM_eq_ok, List.forall₂_map_left_iff, List.forall₂_same]
  intro m member
  have key : readKey (.text ⟨.ok (name m.1), .ok ()⟩) = .ok m.1 := keys m member
  have value := each m member
  simp only [Function.comp_apply, key, value]
  rfl

/-- What a field's reader finds is put into the record. -/
theorem put_of_read {β : Type} {read : Reader β} {tree : Raw} {b : β} {put : β → α → α}
    (found : read tree = .ok b) : put <$> read tree = .ok (put b) := by
  rw [found]
  rfl

namespace Shape

variable {shape : Shape α}

/-- The members of an object are read one after the other. -/
theorem readMembers_cons {key : String} {value : Json} {members : List (String × Json)}
    {seen : List String} {record : α} {slot : Slot α} {put : α → α}
    (known : shape.slots.find? (fun slot => slot.name == key) = some slot)
    (first : seen.contains key = false) (found : slot.read value.raw = .ok put) :
    shape.readMembers (rawMembers ((key, value) :: members)) seen record =
      shape.readMembers (rawMembers members) (key :: seen) (put record) := by
  have name : Raw.keyText (.text ⟨.ok key, .ok ()⟩) = .ok key := rfl
  rw [rawMembers, readMembers, name]
  simp only [strictly, Except.mapError, bind, Except.bind, known, first, found]
  rfl

/-- The members of an object can be read in two parts. -/
theorem readMembers_append {front back : List (String × Json)} {seen between : List String}
    {record part : α}
    (first : shape.readMembers (rawMembers front) seen record = .ok (between, part)) :
    shape.readMembers (rawMembers (front ++ back)) seen record =
      shape.readMembers (rawMembers back) between part := by
  induction front generalizing seen record with
  | nil =>
      obtain ⟨rfl, rfl⟩ := Prod.mk.inj (Except.ok.inj first)
      rfl
  | cons member front ih =>
      rw [List.cons_append]
      simp only [rawMembers, readMembers] at first ⊢
      obtain ⟨name, key, first⟩ := bind_eq_ok.mp first
      rw [key]
      simp only [bind, Except.bind] at first ⊢
      split at first
      next =>
        cases skipped : strictly member.2.raw.skip with
        | error fault =>
            rw [skipped] at first
            cases first
        | ok =>
            rw [skipped] at first
            exact ih first
      next slot _ =>
        by_cases again : seen.contains name
        · rw [if_pos again] at first
          cases first
        · rw [if_neg again] at first ⊢
          cases found : slot.read member.2.raw with
          | error problem =>
              rw [found] at first
              cases first
          | ok put =>
              rw [found] at first
              exact ih first

theorem read_object {members : List (String × Json)} {seen : List String} {record : α}
    (run : shape.readMembers (rawMembers members) [] shape.blank = .ok (seen, record))
    (complete : shape.firstMissing seen = none) :
    shape.read (raw (.object members)) = .ok record := by
  rw [raw, Shape.read, run]
  simp only [bind, Except.bind, complete]
  rfl

end Shape

end Etl.Json
