import Etl.Catalog
import Etl.Yaml.Reader

/-!
Node types in YAML. They have the fields of their JSON form; a default of null counts as absent.
-/

namespace Etl

/-- Reads a field of a node type. -/
def FieldSpec.readYaml : Yaml.Reader FieldSpec :=
  Yaml.Reader.record
    [.required "name" .text fun v f => { f with name := v },
     .required "type" (.oneOf FieldKind.known) fun v f => { f with kind := v },
     .withDefault "required" .bool fun v f => { f with required := v },
     .withDefault "default" (.optional .configValue) fun v f => { f with default := v },
     .withDefault "options" (.list .text) fun v f => { f with options := v }]
    (.voluntary "" .text)

/-- Reads a node type. -/
def NodeType.readYaml : Yaml.Reader NodeType :=
  Yaml.Reader.record
    [.required "id" .text fun v t => { t with id := v },
     .required "category" (.oneOf Category.known) fun v t => { t with category := v },
     .withDefault "display_name" .text fun v t => { t with displayName := v },
     .withDefault "description" .text fun v t => { t with description := v },
     .withDefault "fields" (.list FieldSpec.readYaml) fun v t => { t with fields := v }]
    ⟨"", .source, "", "", []⟩

/-- Reads a list of types from YAML. -/
def Catalog.typesOfYaml (text : String) : Except Error (List NodeType) :=
  Error.ofYaml (.list NodeType.readYaml) text

end Etl
