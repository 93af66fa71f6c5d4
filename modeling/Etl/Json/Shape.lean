import Etl.Json.Reader

/-!
Records in JSON. A record is an object with named fields or the list of its fields in order. Each
field is a slot with a reader of its own that puts the value into the record. In an object the
fields may come in any order, each at most once, and unknown ones are skipped; a list must go far
enough to give every field that has no default.
-/

namespace Etl.Json

/-- A field of a record. -/
structure Slot (α : Type) where
  name : String
  /-- A field with a default may be left out. -/
  optional : Bool
  read : Raw → Except Problem (α → α)

/-- A field whose value is put into the record by `put`. -/
def Slot.required {α β : Type} (name : String) (read : Reader β) (put : β → α → α) : Slot α :=
  ⟨name, false, fun raw => put <$> read raw⟩

/-- A field that keeps what the blank record holds when it is left out. -/
def Slot.withDefault {α β : Type} (name : String) (read : Reader β) (put : β → α → α) : Slot α :=
  ⟨name, true, fun raw => put <$> read raw⟩

/-- A record type: the name it has in messages, its fields in order, and the record before any
field is read. -/
structure Shape (α : Type) where
  name : String
  slots : List (Slot α)
  blank : α

namespace Shape

variable {α : Type}

/-- Reads the members of an object into a record; `seen` holds the fields already read. -/
def readMembers (shape : Shape α) :
    List (Raw × Raw) → List String → α → Except Problem (List String × α)
  | [], seen, record => .ok (seen, record)
  | (key, value) :: members, seen, record => do
    let name ← strictly key.keyText
    match shape.slots.find? fun slot => slot.name == name with
    | none =>
      strictly value.skip
      shape.readMembers members seen record
    | some slot =>
      if seen.contains name then .error (.mismatch (.duplicateField name))
      let put ← slot.read value
      shape.readMembers members (name :: seen) (put record)

/-- The first field that has no default and was not read. -/
def firstMissing (shape : Shape α) (seen : List String) : Option (Slot α) :=
  shape.slots.find? fun slot => !slot.optional && !seen.contains slot.name

/-- Reads the items of a list into the fields in order; gives the fields and items left over. -/
def readItems : List (Slot α) → List Raw → α → Except Problem (List (Slot α) × List Raw × α)
  | slot :: slots, item :: items, record => do
    let put ← slot.read item
    readItems slots items (put record)
  | slots, items, record => .ok (slots, items, record)

/-- What a list of the wrong length should have been. -/
def expectation (shape : Shape α) : String :=
  let count := shape.slots.length
  "struct " ++ shape.name ++ " with " ++ toString count ++
    (if count = 1 then " element" else " elements")

def read (shape : Shape α) : Reader α
  | .object members ending => do
    let (seen, record) ← shape.readMembers members [] shape.blank
    strictly (Raw.finish ending)
    match shape.firstMissing seen with
    | some slot => .error (.mismatch (.missingField slot.name))
    | none => return record
  | .list items ending => do
    let (slots, more, record) ← readItems shape.slots items shape.blank
    if !more.isEmpty then .error (.fault .malformed)
    if !slots.isEmpty then
      strictly (Raw.finish ending)
      if slots.any (!·.optional) then
        let passed := items.length + (slots.takeWhile (·.optional)).length
        .error (.mismatch (.wrongLength passed shape.expectation))
    strictly (Raw.finish ending)
    return record
  | raw => Reader.refuse ("struct " ++ shape.name) raw

end Shape

end Etl.Json
