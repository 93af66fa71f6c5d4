import Etl.Config
import Etl.Yaml.Node
import Etl.Yaml.Plain

/-!
Readers of YAML values. A text may be any scalar; truth values and sizes have to be plain. A record
is a map with its fields in any order, each at most once. A place where nothing is written counts as
an empty list, an empty map, or a record with no field given.
-/

namespace Etl.Yaml

abbrev Reader (α : Type) := Node → Option α

namespace Reader

def text : Reader String
  | .scalar _ s => some s
  | _ => none

def bool : Reader Bool
  | .scalar true s => bool? s
  | _ => none

/-- A natural number of 64 bits. -/
def size : Reader UInt64
  | .scalar true s => do
    let i ← integer? s.toList
    if h : 0 ≤ i ∧ i < 18446744073709551616 ∧ !s.startsWith "-" then
      some (.ofNatLT i.toNat (by simp only [UInt64.size]; omega))
    else none
  | _ => none

/-- Null, or nothing written, counts as absent. -/
def optional {α : Type} (read : Reader α) : Reader (Option α)
  | .scalar true s => if s = "" || isNull s then some none else some <$> read (.scalar true s)
  | node => some <$> read node

def oneOf {α : Type} (known : List (String × α)) : Reader α
  | .scalar _ s => known.lookup s
  | _ => none

def list {α : Type} (read : Reader α) : Reader (List α)
  | .list items => items.mapM read
  | .scalar true "" => some []
  | _ => none

def map {κ α : Type} (readKey : Reader κ) (read : Reader α) : Reader (List (κ × α))
  | .map entries => entries.mapM fun (key, value) => do return (← readKey key, ← read value)
  | .scalar true "" => some []
  | _ => none

/-- A list of nothing but texts. -/
def texts : List Node → Option (List String)
  | [] => some []
  | .scalar plain s :: items =>
    match plain, resolve s with
    | false, _ | true, .text _ => (texts items).map (s :: ·)
    | true, _ => none
  | _ => none

/-- A configuration value. Integers of more than 64 bits are refused. -/
def configValue : Reader ConfigValue
  | .scalar false s => some (.text s)
  | .scalar true s =>
    match resolve s with
    | .null => none
    | .bool b => some (.flag b)
    | .integer i => (Json.Number.ofInt? i).map .number
    | .double d => some (.number (.double d))
    | .notFinite => none
    | .text s => some (.text s)
  | .list items => (texts items).map .list
  | .map _ => none

/-- Reads a whole text. -/
def ofText {α : Type} (read : Reader α) (s : String) : Option α := do read (← Node.ofText? s)

end Reader

/-- A field of a record, with a reader that puts the value into the record. -/
structure Field (α : Type) where
  name : String
  /-- A field with a default may be left out. -/
  optional : Bool
  read : Node → Option (α → α)

def Field.required {α β : Type} (name : String) (read : Reader β) (put : β → α → α) : Field α :=
  ⟨name, false, fun node => put <$> read node⟩

def Field.withDefault {α β : Type} (name : String) (read : Reader β) (put : β → α → α) :
    Field α :=
  ⟨name, true, fun node => put <$> read node⟩

namespace Reader

variable {α : Type}

/-- Reads the entries of a map into a record; `seen` holds the fields already read. Unknown fields
are passed over. -/
def readEntries (fields : List (Field α)) :
    List (Node × Node) → List String → α → Option (List String × α)
  | [], seen, record => some (seen, record)
  | (key, value) :: entries, seen, record => do
    let name ← text key
    match fields.find? fun f => f.name == name with
    | none => readEntries fields entries seen record
    | some field =>
      if seen.contains name then none
      let put ← field.read value
      readEntries fields entries (name :: seen) (put record)

/-- A record with the given fields, which is blank before any field is read. -/
def record (fields : List (Field α)) (blank : α) : Reader α := fun node => do
  let entries ← match node with
    | .map entries => some entries
    | .scalar true "" => some []
    | _ => none
  let (seen, record) ← readEntries fields entries [] blank
  if fields.all fun f => f.optional || seen.contains f.name then some record else none

end Reader

end Etl.Yaml
