import Etl.Catalog.Category
import Etl.Catalog.FieldSpec

/-!
Node types: a category and the fields that configure a node of the type. A sound type has an
identifier, fields with distinct names, options for every choice, and defaults that fit.
-/

namespace Etl

structure NodeType where
  id : String
  category : Category
  displayName : String
  description : String
  fields : List FieldSpec
deriving DecidableEq

/-- Why a node type cannot be registered. -/
inductive TypeFault where
  | blankId
  | blankFieldName
  | repeatedField (name : String)
  | noOptions (name : String)
  | badDefault (name : String) (misfit : Misfit)
  | alreadyRegistered
deriving DecidableEq

namespace TypeFault

def message : TypeFault → String
  | blankId => "type id cannot be empty"
  | blankFieldName => "field name cannot be empty"
  | repeatedField name => "duplicate field '" ++ name ++ "'"
  | noOptions name => "enum field '" ++ name ++ "' declares no options"
  | badDefault name misfit =>
    "default of field '" ++ name ++ "' is invalid: " ++ misfit.message
  | alreadyRegistered => "duplicate type id"

end TypeFault

namespace NodeType

/-- The first field with a name. -/
def field? (type : NodeType) (name : String) : Option FieldSpec :=
  type.fields.find? fun f => f.name == name

def requiredFields (type : NodeType) : List FieldSpec := type.fields.filter (·.required)

/-- The first fault of one field, given the names of the fields before it. -/
def fieldFault? (before : List String) (field : FieldSpec) : Option TypeFault :=
  if Text.isBlank field.name then some .blankFieldName
  else if before.contains field.name then some (.repeatedField field.name)
  else if field.kind = .choice && field.options.isEmpty then some (.noOptions field.name)
  else
    match field.default.bind field.misfit? with
    | some misfit => some (.badDefault field.name misfit)
    | none => none

/-- The first fault of a list of fields. -/
def fieldsFault? (before : List String) : List FieldSpec → Option TypeFault
  | [] => none
  | field :: fields =>
    match fieldFault? before field with
    | some fault => some fault
    | none => fieldsFault? (field.name :: before) fields

/-- The first reason why the type is not sound. -/
def fault? (type : NodeType) : Option TypeFault :=
  if Text.isBlank type.id then some .blankId else fieldsFault? [] type.fields

def toJson (type : NodeType) : Json :=
  .object
    [("id", .text type.id), ("category", .text type.category.name),
     ("display_name", .text type.displayName), ("description", .text type.description),
     ("fields", .list (type.fields.map FieldSpec.toJson))]

/-- The JSON shape, with room for so many containers inside one another. -/
def shape (room : Nat) : Json.Shape NodeType where
  name := "NodeTypeSpec"
  slots :=
    [.required "id" .text fun v t => { t with id := v },
     .required "category" (.oneOf Category.known) fun v t => { t with category := v },
     .withDefault "display_name" .text fun v t => { t with displayName := v },
     .withDefault "description" .text fun v t => { t with description := v },
     .withDefault "fields" (.list (FieldSpec.shape (room - 2)).read) fun v t =>
       { t with fields := v }]
  blank := ⟨"", .source, "", "", []⟩

end NodeType

end Etl
