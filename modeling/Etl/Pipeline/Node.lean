import Etl.Catalog.NodeType
import Etl.Error

/-!
Nodes: an identifier, a type by name, a label and a configuration. The effective value of a field is
the configured one or else the default of the type.
-/

namespace Etl

structure Node where
  id : NodeId
  type : String
  label : String
  config : Config
deriving DecidableEq

namespace Node

/-- The label, or the identifier where there is no label. -/
def displayName (node : Node) : String := if node.label = "" then node.id else node.label

/-- The configured value of a field, or the default. -/
def effective? (node : Node) (type : NodeType) (field : String) : Option ConfigValue :=
  match node.config.get? field with
  | some value => some value
  | none => (type.field? field).bind (·.default)

/-- Whether a field has a value that is not blank. -/
def hasValue (node : Node) (type : NodeType) (field : String) : Bool :=
  match node.effective? type field with
  | some value => !value.isBlank
  | none => false

/-- What is wrong with one configured value; blank values are always right. -/
def valueFault? (type : NodeType) (id : NodeId) (name : String) (value : ConfigValue) :
    Option Error :=
  match type.field? name with
  | none => some (.unknownField id type.id name)
  | some field =>
    if value.isBlank then none
    else (field.misfit? value).map fun m => .invalidConfig id ⟨name, .misfit m⟩

/-- Checks the configured values in order of their names. Missing values are not looked for. -/
def checkConfig (node : Node) (type : NodeType) : Except Error Unit :=
  match node.config.entries.findSome? fun (name, value) => valueFault? type node.id name value with
  | some e => .error e
  | none => .ok ()

/-- Puts values over the present ones. -/
def updated (node : Node) (changes : Config) : Node :=
  { node with config := node.config.insertMany changes.entries }

def toJson (node : Node) : Json :=
  .object
    [("id", .text node.id), ("type", .text node.type), ("label", .text node.label),
     ("config", node.config.toJson)]

/-- The JSON shape, with room for so many containers inside one another. -/
def shape (room : Nat) : Json.Shape Node where
  name := "NodeDescriptor"
  slots :=
    [.required "id" .text fun v n => { n with id := v },
     .required "type" .text fun v n => { n with type := v },
     .withDefault "label" .text fun v n => { n with label := v },
     .withDefault "config" (Config.read (room - 2)) fun v n => { n with config := v }]
  blank := ⟨"", "", "", SortedMap.empty⟩

end Node

end Etl
