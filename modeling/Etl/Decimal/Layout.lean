import Etl.Decimal.Shortest

/-!
How a double is written. A layout says which decimal exponents are written positionally, whether an
integral value keeps a fractional digit, and where a tie of digits goes. There are two: one for
JSON texts and one for messages and comments.
-/

namespace Etl

/-- The decisions of one way to write numbers. -/
structure Double.Layout where
  /-- Whether a number whose first digit stands at this power of ten is written without exponent. -/
  positional : Int → Bool
  /-- Whether an integral value keeps a point and a zero. -/
  keepsFraction : Bool
  tie : Tie

namespace Double

/-- JSON texts: positional from `1e-5` up to below `1e16`, else with an exponent. -/
def Layout.json : Layout := ⟨fun e => -5 ≤ e && e ≤ 15, true, .toEven⟩

/-- Running text: never an exponent. -/
def Layout.plain : Layout := ⟨fun _ => true, false, .up⟩

/-- Digits around the point when the first one stands at power `e`. -/
def positionalText (fraction : Bool) (digits : List Char) (e : Int) : List Char :=
  if e < 0 then
    '0' :: '.' :: List.replicate (-e - 1).toNat '0' ++ digits
  else
    let whole := e.toNat + 1
    if whole < digits.length then digits.take whole ++ '.' :: digits.drop whole
    else digits ++ List.replicate (whole - digits.length) '0' ++
      if fraction then ['.', '0'] else []

/-- One digit before the point, and the signed exponent. -/
def exponentText (digits : List Char) (e : Int) : List Char :=
  let mantissa := match digits with
    | first :: more@(_ :: _) => first :: '.' :: more
    | short => short
  mantissa ++ 'e' :: (if e < 0 then '-' else '+') :: Decimal.digitsOf e.natAbs

/-- The magnitude of the number with this ordinal. -/
def magnitudeText (layout : Layout) (ordinal : Nat) : List Char :=
  if ordinal = 0 then if layout.keepsFraction then ['0', '.', '0'] else ['0']
  else
    let d := shortest layout.tie ordinal
    if layout.positional d.exponent then positionalText layout.keepsFraction d.text d.exponent
    else exponentText d.text d.exponent

/-- The text of a number; the sign of zero is kept. -/
def write (layout : Layout) (d : Double) : List Char :=
  let magnitude := magnitudeText layout d.ordinal
  if d.negative then '-' :: magnitude else magnitude

/-- The text used in messages. -/
def plain (d : Double) : String := String.ofList (d.write .plain)

end Double

end Etl
