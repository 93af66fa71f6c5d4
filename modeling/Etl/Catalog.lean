import Etl.Catalog.NodeType
import Etl.Error

/-!
The catalog of node types. It only ever holds sound types, each under its own identifier, and a
registered type is never replaced: a batch is taken as a whole or not at all.
-/

namespace Etl

structure Catalog where
  types : SortedMap String NodeType
deriving DecidableEq

namespace Catalog

def empty : Catalog := ⟨SortedMap.empty⟩

instance : Inhabited Catalog := ⟨empty⟩

variable (c : Catalog)

def get? (id : String) : Option NodeType := c.types.get? id

/-- The type, which must be registered. -/
def lookup (id : String) : Except Error NodeType :=
  match c.get? id with
  | some type => .ok type
  | none => .error (.nodeTypeNotFound id)

def contains (id : String) : Bool := c.types.contains id

def size : Nat := c.types.size

def isEmpty : Bool := c.types.isEmpty

/-- The types of one category, or all, in order of their identifiers. -/
def list (category : Option Category) : List NodeType :=
  c.types.values.filter fun type => category.all (type.category == ·)

/-- Looks for the first type of a batch that cannot be registered; `before` holds the identifiers
already passed. -/
def batchFault? (before : List String) : List NodeType → Option Error
  | [] => none
  | type :: types =>
    match type.fault? with
    | some fault => some (.invalidNodeType type.id fault)
    | none =>
      if c.contains type.id || before.contains type.id then
        some (.invalidNodeType type.id .alreadyRegistered)
      else batchFault? (type.id :: before) types

/-- Registers a batch of types. -/
def extend (types : List NodeType) : Except Error Catalog :=
  match c.batchFault? [] types with
  | some e => .error e
  | none => .ok ⟨c.types.insertMany (types.map fun type => (type.id, type))⟩

/-- Reads a list of types from JSON. -/
def typesOfJson (text : String) : Except Error (List NodeType) :=
  Error.ofJson (.list (NodeType.shape (Json.maxDepth - 1)).read) text

end Catalog

end Etl
