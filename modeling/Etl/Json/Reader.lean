import Etl.Json.Mismatch

/-!
Readers of single values. Each walks its tree in text order and stops at the first problem.
-/

namespace Etl.Json

abbrev Reader (α : Type) := Raw → Except Problem α

/-- How many containers may stand inside one another where values are wanted. -/
def maxDepth : Nat := 127

/-- A strictly read scalar, or its fault. -/
def strictly {α : Type} (r : Except Fault α) : Except Problem α := r.mapError .fault

namespace Raw

mutual

/-- Passes over a value, reading its scalars leniently. -/
def skip : Raw → Except Fault Unit
  | missing f => .error f
  | text r => r.lenient
  | number r => r.lenient
  | word r => r.map fun _ => ()
  | list items ending => do
    skipItems items
    finish ending
  | object members ending => do
    skipMembers members
    finish ending

def skipItems : List Raw → Except Fault Unit
  | [] => .ok ()
  | item :: items => do
    item.skip
    skipItems items

def skipMembers : List (Raw × Raw) → Except Fault Unit
  | [] => .ok ()
  | (key, value) :: members => do
    match key with
    | text r => r.lenient
    | missing f => .error f
    | _ => .error .malformed
    value.skip
    skipMembers members

/-- The fault at which a list or an object ends, if it is not closed. -/
def finish : Ending → Except Fault Unit
  | .closed => .ok ()
  | .cut f => .error f

end

/-- The text of a key. -/
def keyText : Raw → Except Fault String
  | text r => r.strict
  | missing f => .error f
  | _ => .error .malformed

mutual

/-- Passes over a value, reading its scalars strictly, with room for so many containers inside one
another. -/
def check (room : Nat) : Raw → Except Fault Unit
  | missing f => .error f
  | text r => r.strict.map fun _ => ()
  | number r => r.strict.map fun _ => ()
  | word r => r.map fun _ => ()
  | list items ending =>
    match room with
    | 0 => .error .malformed
    | room + 1 => do
      checkItems room items
      finish ending
  | object members ending =>
    match room with
    | 0 => .error .malformed
    | room + 1 => do
      checkMembers room members
      finish ending

def checkItems (room : Nat) : List Raw → Except Fault Unit
  | [] => .ok ()
  | item :: items => do
    item.check room
    checkItems room items

def checkMembers (room : Nat) : List (Raw × Raw) → Except Fault Unit
  | [] => .ok ()
  | (key, value) :: members => do
    let _ ← key.keyText
    value.check room
    checkMembers room members

end

end Raw

namespace Reader

/-- Refuses a value because of its type. -/
def refuse {α : Type} (expected : String) (raw : Raw) : Except Problem α := do
  let found ← strictly (Found.ofRaw raw)
  .error (.mismatch (.wrongType found expected))

def text : Reader String
  | .text r => strictly r.strict
  | raw => refuse "a string" raw

def bool : Reader Bool
  | .word r => do
    match ← strictly r with
    | some b => return b
    | none => .error (.mismatch (.wrongType .null "a boolean"))
  | raw => refuse "a boolean" raw

/-- A natural number of 64 bits. -/
def size : Reader UInt64
  | .number r => do
    match ← strictly r.strict with
    | .integer i fits =>
      if i < 0 then .error (.mismatch (.negativeSize (.integer i fits)))
      else return .ofNatLT i.toNat (by have := fits.2; simp only [UInt64.size]; omega)
    | .double d => .error (.mismatch (.wrongType (.number (.double d)) "usize"))
  | raw => refuse "usize" raw

/-- Null counts as absent. -/
def optional {α : Type} (read : Reader α) : Reader (Option α)
  | .word r => do
    match ← strictly r with
    | none => return none
    | some b => some <$> read (.word (.ok (some b)))
  | raw => some <$> read raw

/-- A list of values of one type. -/
def list {α : Type} (read : Reader α) : Reader (List α)
  | .list items ending => do
    let values ← items.mapM read
    strictly (Raw.finish ending)
    return values
  | raw => refuse "a sequence" raw

/-- An object of values of one type; the keys are read too. -/
def object {κ α : Type} (readKey : Reader κ) (read : Reader α) : Reader (List (κ × α))
  | .object members ending => do
    let entries ← members.mapM fun (key, value) => do
      let _ ← strictly key.keyText
      return (← readKey key, ← read value)
    strictly (Raw.finish ending)
    return entries
  | raw => refuse "a map" raw

/-- Looks a name up. -/
def variant {α : Type} (known : List (String × α)) (name : String) : Except Problem α :=
  match known.lookup name with
  | some a => .ok a
  | none => .error (.mismatch (.unknownVariant name (known.map (·.1))))

/-- One of a few names. A name may also be the key of an object that holds null alone. -/
def oneOf {α : Type} (known : List (String × α)) : Reader α
  | .text r => do variant known (← strictly r.strict)
  | .object [] ending => do
    strictly (Raw.finish ending)
    .error (.fault .malformed)
  | .object ((key, value) :: more) ending => do
    let a ← variant known (← strictly key.keyText)
    match value with
    | .word (.ok none) => pure ()
    | raw => refuse "unit" raw
    if !more.isEmpty then .error (.fault .malformed)
    strictly (Raw.finish ending)
    return a
  | .missing f => .error (.fault f)
  | _ => .error (.fault .malformed)

/-- Reads a whole text. -/
def ofText {α : Type} (read : Reader α) (s : String) : Except Problem α := do
  let (raw, more) := Raw.ofText s
  let a ← read raw
  if more then .error (.fault .malformed)
  return a

end Reader

end Etl.Json
