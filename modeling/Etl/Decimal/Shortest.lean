import Etl.Decimal.Double

/-!
The shortest decimal that reads back as a given number. The reals that round to a number form an
interval. On the grids of one, two, up to seventeen digits the two neighbours of the value are
tried: the first grid with a neighbour inside the interval wins, and of two such neighbours the
nearer one.
-/

namespace Etl

/-- A positive decimal number: `digits * 10 ^ scale`. -/
structure Decimal where
  digits : Nat
  scale : Int
deriving DecidableEq

namespace Decimal

/-- Decimal digits of a natural number, the most significant first. -/
def digitsOf (n : Nat) : List Char := Nat.toDigits 10 n

/-- The digits as written. -/
def text (d : Decimal) : List Char := digitsOf d.digits

/-- The power of ten at which the first digit stands. -/
def exponent (d : Decimal) : Int := d.scale + d.text.length - 1

/-- Drops trailing zeros; `fuel` bounds their number. -/
def stripped : Nat → Decimal → Decimal
  | 0, d => d
  | fuel + 1, d => if d.digits % 10 = 0 then stripped fuel ⟨d.digits / 10, d.scale + 1⟩ else d

end Decimal

/-- Where an exact tie between two equally short decimals goes. -/
inductive Tie where
  | toEven
  | up
deriving DecidableEq, Repr

namespace Double

/-- The value of an ordinal in units of half the least positive number. -/
def halves (ordinal : Nat) : Nat := 2 * (significand ordinal * Nat.pow 2 (shift ordinal))

/-- The lower end of the interval that rounds to a positive ordinal, in the same units. -/
def lowerEnd (ordinal : Nat) : Nat := (halves (ordinal - 1) + halves ordinal) / 2

/-- The upper end of that interval. -/
def upperEnd (ordinal : Nat) : Nat := (halves ordinal + halves (ordinal + 1)) / 2

/-- Whether a decimal reads back as the number with this ordinal. -/
def holdsDecimal (ordinal : Nat) (d : Decimal) : Bool :=
  let value := d.digits * Nat.pow 10 d.scale.toNat * (2 * denominator)
  let unit := Nat.pow 10 (-d.scale).toNat
  let low := lowerEnd ordinal * unit
  let high := upperEnd ordinal * unit
  if ordinal % 2 = 0 then low ≤ value && value ≤ high else low < value && value < high

/-- The power of ten of the first digit. The value is scaled up by `10 ^ 330`, which makes every
positive number greater than one. -/
def decimalExponent (ordinal : Nat) : Int :=
  let scaled := halves ordinal * Nat.pow 10 330 / (2 * denominator)
  (Decimal.digitsOf scaled).length - 331

/-- The neighbours of the value on one grid, with the sign of the distance below less the one
above. -/
def neighbours (ordinal : Nat) (scale : Int) : Decimal × Decimal × Ordering :=
  let num := halves ordinal * Nat.pow 10 (-scale).toNat
  let den := 2 * denominator * Nat.pow 10 scale.toNat
  let below := num / den
  (⟨below, scale⟩, ⟨below + 1, scale⟩, compare (2 * (num % den)) den)

/-- Chooses between two neighbours that both read back. -/
def choose (tie : Tie) (below above : Decimal) : Ordering → Decimal
  | .lt => below
  | .gt => above
  | .eq =>
    match tie with
    | .up => above
    | .toEven => if below.digits % 2 = 0 then below else above

/-- The best neighbour on one grid, if one reads back. -/
def onGrid (tie : Tie) (ordinal : Nat) (scale : Int) : Option Decimal :=
  let (below, above, order) := neighbours ordinal scale
  match holdsDecimal ordinal below, holdsDecimal ordinal above with
  | true, true => some (choose tie below above order)
  | true, false => some below
  | false, true => some above
  | false, false => none

/-- Tries grids of more and more digits; the scale falls from `first`. -/
def searchGrids (tie : Tie) (ordinal : Nat) (first : Int) : Nat → Decimal
  | 0 => (neighbours ordinal (first - 16)).1
  | left + 1 =>
    match onGrid tie ordinal (first - (16 - left)) with
    | some d => d
    | none => searchGrids tie ordinal first left

/-- The shortest decimal that reads back as the positive number with this ordinal. -/
def shortest (tie : Tie) (ordinal : Nat) : Decimal :=
  Decimal.stripped 17 (searchGrids tie ordinal (decimalExponent ordinal) 17)

end Double

end Etl
