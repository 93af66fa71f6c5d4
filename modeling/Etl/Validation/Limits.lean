import Etl.Json.Shape
import Etl.Json.Value

/-!
Limits on what is accepted: nodes, edges, and the size of a descriptor in bytes.
-/

namespace Etl

structure Limits where
  maxNodes : UInt64
  maxEdges : UInt64
  maxSize : UInt64
deriving DecidableEq

/-- A descriptor that is too large. -/
structure Oversize where
  size : Nat
  allowed : UInt64
deriving DecidableEq

def Oversize.message (o : Oversize) : String :=
  "descriptor size (" ++ toString o.size ++ " bytes) exceeds maximum allowed (" ++
    toString o.allowed.toNat ++ " bytes)"

namespace Limits

/-- A thousand nodes, five thousand edges and ten mebibytes. -/
def standard : Limits := ⟨1000, 5000, 10485760⟩

instance : Inhabited Limits := ⟨standard⟩

/-- Accepts a descriptor by its size. -/
def accept (l : Limits) (text : String) : Except Oversize Unit :=
  if l.maxSize.toNat < text.utf8ByteSize then .error ⟨text.utf8ByteSize, l.maxSize⟩ else .ok ()

def toJson (l : Limits) : Json :=
  .object
    [("max_node_count", .ofSize l.maxNodes), ("max_edge_count", .ofSize l.maxEdges),
     ("max_descriptor_size", .ofSize l.maxSize)]

def shape : Json.Shape Limits where
  name := "ValidationLimits"
  slots :=
    [.withDefault "max_node_count" .size fun v l => { l with maxNodes := v },
     .withDefault "max_edge_count" .size fun v l => { l with maxEdges := v },
     .withDefault "max_descriptor_size" .size fun v l => { l with maxSize := v }]
  blank := standard

end Limits

end Etl
