import Etl.Text.Blank
import Etl.Text.EscapeTable

/-!
Quoted text in messages. Quotes and backslashes are escaped, a few control characters have letters,
and a character that would not show is written by its number.
-/

namespace Etl.Text

/-- Lowercase hexadecimal digits without leading zeros. -/
def hexDigits (n : Nat) : List Char := Nat.toDigits 16 n

/-- One character between quotes. -/
def escapedChar (c : Char) : List Char :=
  if c = '\x00' then ['\x5c', '0']
  else if c = '\t' then ['\x5c', 't']
  else if c = '\r' then ['\x5c', 'r']
  else if c = '\n' then ['\x5c', 'n']
  else if c = '\x5c' then ['\x5c', '\x5c']
  else if c = '\x22' then ['\x5c', '\x22']
  else if inRanges escapedRanges c.toNat then
    ['\x5c', 'u', '\x7b'] ++ hexDigits c.toNat ++ ['\x7d']
  else [c]

/-- A text between double quotes, in the form that messages show. -/
def escaped (s : String) : String :=
  String.ofList ('\x22' :: s.toList.flatMap escapedChar ++ ['\x22'])

end Etl.Text
