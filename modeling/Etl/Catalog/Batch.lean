import Etl.Catalog
import Etl.Work

/-!
Registering a batch of types in place. All types of the batch are looked at first, and only then is
the first of them put in; nothing takes a type out again.
-/

namespace Etl.Catalog

/-- Stops at the first type of a batch that cannot be registered; `before` holds the identifiers
already passed. -/
def checkBatch (before : List String) : List NodeType → Work Catalog Unit
  | [] => return
  | type :: types => do
    if let some fault := type.fault? then throw (.invalidNodeType type.id fault)
    if (← get).contains type.id || before.contains type.id then
      throw (.invalidNodeType type.id .alreadyRegistered)
    checkBatch (type.id :: before) types

def put (type : NodeType) : Work Catalog Unit :=
  modify fun c => ⟨c.types.insert type.id type⟩

/-- Registers a batch of types. -/
def register (types : List NodeType) : Work Catalog Unit := do
  checkBatch [] types
  types.forM put

/-- The catalog after batches of which some may be refused. -/
def registerAll (c : Catalog) (batches : List (List NodeType)) : Catalog :=
  batches.foldl (fun c batch => (register batch).after c) c

end Etl.Catalog
