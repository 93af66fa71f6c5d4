import Etl.Json.Reader
import Etl.Json.Value
import Etl.SortedMap
import Etl.Text.Blank

/-!
Configuration values. A node's configuration maps field names to values of four kinds. Blank texts,
and lists of blank texts, count as not given.
-/

namespace Etl

inductive ConfigValue where
  | flag (b : Bool)
  | number (n : Json.Number)
  | text (s : String)
  | list (items : List String)
deriving DecidableEq

/-- The configuration of one node. -/
abbrev Config := SortedMap String ConfigValue

namespace ConfigValue

def text? : ConfigValue → Option String
  | text s => some s
  | _ => none

def list? : ConfigValue → Option (List String)
  | list items => some items
  | _ => none

def flag? : ConfigValue → Option Bool
  | flag b => some b
  | _ => none

def number? : ConfigValue → Option Double
  | number n => some n.toDouble
  | _ => none

/-- Whether the value counts as not given. -/
def isBlank : ConfigValue → Bool
  | text s => Text.isBlank s
  | list items => items.all Text.isBlank
  | _ => false

/-- The name of the value's kind in messages. -/
def kind : ConfigValue → String
  | flag _ => "boolean"
  | number _ => "number"
  | text _ => "string"
  | list _ => "list"

/-- The value as running text. -/
def display : ConfigValue → String
  | flag true => "true"
  | flag false => "false"
  | number n => n.text
  | text s => s
  | list items => ", ".intercalate items

def toJson : ConfigValue → Json
  | flag b => .bool b
  | number n => .number n
  | text s => .text s
  | list items => .texts items

/-- A list of nothing but texts. -/
def readTexts : List Json.Raw → Option (List String)
  | [] => some []
  | .text ⟨.ok s, _⟩ :: items => (readTexts items).map (s :: ·)
  | _ => none

/-- Reads a value. It is first read through as JSON, with room for so many containers inside one
another, and only then is its kind looked at. -/
def read (room : Nat) : Json.Reader ConfigValue := fun raw => do
  Json.strictly (raw.check room)
  match raw with
  | .word (.ok (some b)) => return flag b
  | .number ⟨.ok n, _⟩ => return number n
  | .text ⟨.ok s, _⟩ => return text s
  | .list items _ =>
    match readTexts items with
    | some texts => return list texts
    | none => .error (.mismatch .noConfigValue)
  | _ => .error (.mismatch .noConfigValue)

end ConfigValue

namespace Config

def toJson (config : Config) : Json :=
  .object (config.entries.map fun (name, value) => (name, value.toJson))

/-- Reads a configuration; the last of equal names stays. -/
def read (room : Nat) : Json.Reader Config := fun raw =>
  SortedMap.ofList <$> Json.Reader.object Json.Reader.text (ConfigValue.read room) raw

end Config

end Etl
