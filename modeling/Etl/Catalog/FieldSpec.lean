import Etl.Config
import Etl.Json.Shape

/-!
Fields of a node type: their kind, whether a value is required, the default and, for a choice, the
options. A value is checked against its field alone.
-/

namespace Etl

inductive FieldKind where
  | text
  | number
  | flag
  | choice
  | list
deriving DecidableEq, Repr

namespace FieldKind

def name : FieldKind → String
  | text => "string"
  | number => "number"
  | flag => "boolean"
  | choice => "enum"
  | list => "list"

def all : List FieldKind := [text, number, flag, choice, list]

def known : List (String × FieldKind) := all.map fun k => (k.name, k)

end FieldKind

/-- Why a value does not fit a field. -/
inductive Misfit where
  | wrongKind (expected : FieldKind) (found : String)
  | noOption (value : String) (options : List String)
deriving DecidableEq

namespace Misfit

def message : Misfit → String
  | wrongKind expected found => "expected " ++ expected.name ++ ", got " ++ found
  | noOption value options =>
    "'" ++ value ++ "' is not one of [" ++ ", ".intercalate options ++ "]"

end Misfit

structure FieldSpec where
  name : String
  kind : FieldKind
  required : Bool
  default : Option ConfigValue
  options : List String
deriving DecidableEq

namespace FieldSpec

/-- A field without default and options that must be given. -/
def mandatory (name : String) (kind : FieldKind) : FieldSpec := ⟨name, kind, true, none, []⟩

/-- A field without default and options that may be left out. -/
def voluntary (name : String) (kind : FieldKind) : FieldSpec := ⟨name, kind, false, none, []⟩

/-- Why a value does not fit, if it does not. -/
def misfit? (field : FieldSpec) (value : ConfigValue) : Option Misfit :=
  match field.kind, value with
  | .text, .text _ => none
  | .number, .number _ => none
  | .flag, .flag _ => none
  | .list, .list _ => none
  | .choice, .text s => if field.options.contains s then none else some (.noOption s field.options)
  | kind, value => some (.wrongKind kind value.kind)

/-- The JSON form leaves out an absent default and empty options. -/
def toJson (field : FieldSpec) : Json :=
  .object <|
    [("name", .text field.name), ("type", .text field.kind.name),
      ("required", .bool field.required)] ++
    (match field.default with
      | some value => [("default", value.toJson)]
      | none => []) ++
    (if field.options.isEmpty then [] else [("options", .texts field.options)])

/-- The JSON shape, with room for so many containers inside one another. -/
def shape (room : Nat) : Json.Shape FieldSpec where
  name := "FieldSpec"
  slots :=
    [.required "name" .text fun v f => { f with name := v },
     .required "type" (.oneOf FieldKind.known) fun v f => { f with kind := v },
     .withDefault "required" .bool fun v f => { f with required := v },
     .withDefault "default" (.optional (ConfigValue.read (room - 1))) fun v f =>
       { f with default := v },
     .withDefault "options" (.list .text) fun v f => { f with options := v }]
  blank := voluntary "" .text

end FieldSpec

end Etl
