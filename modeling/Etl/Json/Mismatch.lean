import Etl.Json.Raw
import Etl.Text.Escaped

/-!
Well-formed JSON of the wrong shape. Each cause has one text; a problem is either a fault of the
text itself or such a mismatch.
-/

namespace Etl.Json

/-- What stands where something else was expected. -/
inductive Found where
  | null
  | bool (b : Bool)
  | number (n : Number)
  | text (s : String)
  | list
  | object

inductive Mismatch where
  | missingField (name : String)
  | duplicateField (name : String)
  | wrongType (found : Found) (expected : String)
  /-- An integer below the range of sizes. -/
  | negativeSize (value : Number)
  | wrongLength (length : Nat) (expected : String)
  | unknownVariant (name : String) (known : List String)
  | noConfigValue
  /-- The value was read and then refused, for the stated reason. -/
  | refused (reason : String)

/-- Why a text could not be read as a value of some type. -/
inductive Problem where
  | fault (f : Fault)
  | mismatch (m : Mismatch)

namespace Found

def describe : Found → String
  | null => "null"
  | bool true => "boolean \x60true\x60"
  | bool false => "boolean \x60false\x60"
  | number (.integer i _) => "integer \x60" ++ String.ofList (Number.integerText i) ++ "\x60"
  | number (.double d) => "floating point \x60" ++ (Number.double d).text ++ "\x60"
  | text s => "string " ++ Text.escaped s
  | list => "sequence"
  | object => "map"

/-- Names what stands at the head of a tree; a scalar is read strictly for it. -/
def ofRaw : Raw → Except Fault Found
  | .missing f => .error f
  | .text r => r.strict.map .text
  | .number r => r.strict.map .number
  | .word r => r.map fun
    | none => .null
    | some b => .bool b
  | .list .. => .ok .list
  | .object .. => .ok .object

end Found

namespace Mismatch

/-- Names in quotes, as a message lists them. -/
def listed (names : List String) : String :=
  match names.map fun n => "\x60" ++ n ++ "\x60" with
  | [a] => a
  | [a, b] => a ++ " or " ++ b
  | quoted => "one of " ++ ", ".intercalate quoted

def message : Mismatch → String
  | missingField name => "missing field \x60" ++ name ++ "\x60"
  | duplicateField name => "duplicate field \x60" ++ name ++ "\x60"
  | wrongType found expected => "invalid type: " ++ found.describe ++ ", expected " ++ expected
  | negativeSize value =>
    "invalid value: integer \x60" ++ value.text ++ "\x60, expected usize"
  | wrongLength length expected =>
    "invalid length " ++ toString length ++ ", expected " ++ expected
  | unknownVariant name known =>
    "unknown variant \x60" ++ name ++ "\x60, expected " ++ listed known
  | noConfigValue => "data did not match any variant of untagged enum ConfigValue"
  | refused reason => reason

end Mismatch

end Etl.Json
