/-!
Finite binary floating-point numbers of 64 bits, held exactly. The non-negative ones are numbered in
ascending order from zero, so a number is a sign and an ordinal, and rounding is a computation on
natural numbers: the exact quotient goes to the nearest number, a tie to the even ordinal.
-/

namespace Etl

/-- Distance of the ordinals of two successive powers of two, 2 ^ 52. -/
def Double.binade : Nat := 4503599627370496

/-- How many non-negative finite numbers there are. -/
def Double.count : Nat := 2047 * Double.binade

/-- A finite number: its sign and its place among the non-negative numbers. -/
structure Double where
  negative : Bool
  ordinal : Nat
  finite : ordinal < Double.count
deriving DecidableEq

namespace Double

def zero : Double := ⟨false, 0, by decide⟩

instance : Inhabited Double := ⟨zero⟩

/-- The integer `c` in the value `c * 2 ^ q` of an ordinal. -/
def significand (ordinal : Nat) : Nat :=
  if ordinal < binade then ordinal else binade + ordinal % binade

/-- The exponent `q` in the value `c * 2 ^ q` of an ordinal, raised by 1074 to be natural. -/
def shift (ordinal : Nat) : Nat :=
  ordinal / binade - 1

/-- The magnitude as a quotient of natural numbers. -/
def numerator (d : Double) : Nat := significand d.ordinal * Nat.pow 2 (shift d.ordinal)

/-- Every finite number is a multiple of the least positive one, `2 ^ -1074`. -/
def denominator : Nat := Nat.pow 2 1074

/-- The quotient rounded to an integer, a tie to the even neighbour. -/
def roundedQuotient (num den : Nat) : Nat :=
  let q := num / den
  let twice := 2 * (num % den)
  if twice < den then q
  else if den < twice then q + 1
  else q + q % 2

/-- The ordinal nearest to `num / den`; beyond the greatest number it is `Double.count` or more. -/
def nearestOrdinal (num den : Nat) : Nat :=
  let scaled := num * denominator
  let shift := Nat.log2 (scaled / den) - 52
  shift * binade + roundedQuotient scaled (den * Nat.pow 2 shift)

/-- The number nearest to a quotient, if it is not beyond the greatest one. -/
def ofQuotient (negative : Bool) (num den : Nat) : Option Double :=
  let ordinal := nearestOrdinal num den
  if finite : ordinal < count then some ⟨negative, ordinal, finite⟩ else none

/-- The product with a natural number, rounded; nothing when it is too great. -/
def times (d : Double) (factor : Nat) : Option Double :=
  ofQuotient d.negative (d.numerator * factor) denominator

/-- The quotient by a natural number, rounded. -/
def dividedBy (d : Double) (divisor : Nat) : Option Double :=
  ofQuotient d.negative d.numerator (denominator * divisor)

/-- The number nearest to an integer; integers of up to 1023 bits are never too great. -/
def ofInt (i : Int) : Double :=
  (ofQuotient (i < 0) i.natAbs 1).getD zero

/-- Whether the value lies between zero and a natural number, both included; a negative zero
does. -/
def isWithin (d : Double) (upper : Nat) : Bool :=
  (!d.negative || d.ordinal == 0) && d.numerator ≤ upper * denominator

end Double

end Etl
