import Etl.Decimal.Layout

/-!
The numbers of a JSON text. An integer that fits 64 bits, signed or unsigned, stays an integer;
every other number is a double.
-/

namespace Etl.Json

inductive Number where
  | integer (value : Int)
    (fits : -9223372036854775808 ≤ value ∧ value < 18446744073709551616)
  | double (value : Double)
deriving DecidableEq

namespace Number

/-- The integer as a number, if it fits. -/
def ofInt? (i : Int) : Option Number :=
  if fits : -9223372036854775808 ≤ i ∧ i < 18446744073709551616 then some (integer i fits)
  else none

/-- The value as a double, rounded where it has to be. -/
def toDouble : Number → Double
  | integer i _ => .ofInt i
  | double d => d

/-- Decimal digits with a sign where one is needed. -/
def integerText (i : Int) : List Char :=
  if i < 0 then '-' :: Decimal.digitsOf i.natAbs else Decimal.digitsOf i.natAbs

/-- The JSON text. -/
def chars : Number → List Char
  | integer i _ => integerText i
  | double d => d.write .json

def text (n : Number) : String := String.ofList n.chars

end Number

end Etl.Json
