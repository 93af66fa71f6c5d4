import Etl.Json.Number
import Etl.Json.Quoted

/-!
JSON values and how they are written. Compact and indented texts differ only in the blanks around
brackets, commas and colons, so one writer takes the blanks as a parameter.
-/

namespace Etl

inductive Json where
  | null
  | bool (b : Bool)
  | number (n : Json.Number)
  | text (s : String)
  | list (items : List Json)
  | object (members : List (String × Json))

namespace Json

/-- The blanks of one way to write: before an item at some depth, and after a colon. -/
structure Spacing where
  line : Nat → List Char
  colon : List Char

/-- No blanks at all. -/
def Spacing.compact : Spacing := ⟨fun _ => [], []⟩

/-- One item a line, two blanks for each depth. -/
def Spacing.indented : Spacing := ⟨fun depth => '\n' :: List.replicate (2 * depth) ' ', [' ']⟩

mutual

/-- Writes a value whose line stands at a depth. -/
def write (spacing : Spacing) (depth : Nat) : Json → List Char
  | null => ['n', 'u', 'l', 'l']
  | bool true => ['t', 'r', 'u', 'e']
  | bool false => ['f', 'a', 'l', 's', 'e']
  | number n => n.chars
  | text s => Quoted.encode s.toList
  | list [] => ['[', ']']
  | list (item :: items) =>
    '[' :: spacing.line (depth + 1) ++ write spacing (depth + 1) item ++
      writeItems spacing depth items
  | object [] => ['\x7b', '\x7d']
  | object ((key, value) :: members) =>
    '\x7b' :: spacing.line (depth + 1) ++ Quoted.encode key.toList ++ ':' :: spacing.colon ++
      write spacing (depth + 1) value ++ writeMembers spacing depth members

/-- The items after the first, and the closing bracket. -/
def writeItems (spacing : Spacing) (depth : Nat) : List Json → List Char
  | [] => spacing.line depth ++ [']']
  | item :: items =>
    ',' :: spacing.line (depth + 1) ++ write spacing (depth + 1) item ++
      writeItems spacing depth items

/-- The members after the first, and the closing bracket. -/
def writeMembers (spacing : Spacing) (depth : Nat) : List (String × Json) → List Char
  | [] => spacing.line depth ++ ['\x7d']
  | (key, value) :: members =>
    ',' :: spacing.line (depth + 1) ++ Quoted.encode key.toList ++ ':' :: spacing.colon ++
      write spacing (depth + 1) value ++ writeMembers spacing depth members

end

/-- The text without blanks. -/
def compact (j : Json) : String := String.ofList (j.write .compact 0)

/-- The indented text. -/
def indented (j : Json) : String := String.ofList (j.write .indented 0)

/-- A list of texts. -/
def texts (l : List String) : Json := .list (l.map .text)

/-- A natural number of 64 bits. -/
def ofSize (n : UInt64) : Json :=
  .number (.integer n.toNat (by have := n.toNat_lt; omega))

end Json

end Etl
