import Etl.Json.Fault
import Etl.Json.Number

/-!
Numerals: how a number is spelled, and the number a spelling stands for. The digits fill a
significand of 64 bits; those that no longer fit only move the point. The significand, rounded to a
double, is then multiplied or divided by one rounded power of ten.
-/

namespace Etl.Json

/-- A spelled number: digits before and after the point, and the exponent where one is written. -/
structure Numeral where
  negative : Bool
  whole : List Char
  fraction : List Char
  exponent : Option Int

namespace Numeral

def isDigit (c : Char) : Bool := '0' ≤ c && c ≤ '9'

def digitValue (c : Char) : Nat := c.toNat - '0'.toNat

/-- The value of a run of digits. -/
def digitsValue (cs : List Char) : Nat := cs.foldl (fun n c => 10 * n + digitValue c) 0

/-- A non-empty run of digits and what follows it. -/
def scanDigits (cs : List Char) : Except Fault (List Char × List Char) :=
  match cs with
  | [] => .error .truncated
  | c :: _ => if isDigit c then .ok (cs.span isDigit) else .error .malformed

/-- The digits before the point: a zero only stands alone. -/
def scanWhole (cs : List Char) : Except Fault (List Char × List Char) := do
  let (digits, rest) ← scanDigits cs
  if digits.head? = some '0' && digits.length ≠ 1 then .error .malformed else return (digits, rest)

def scanFraction : List Char → Except Fault (List Char × List Char)
  | '.' :: cs => scanDigits cs
  | cs => return ([], cs)

/-- The digits of an exponent after its letter, with their sign. -/
def scanExponentDigits : List Char → Except Fault (Int × List Char)
  | '-' :: cs => do
    let (digits, rest) ← scanDigits cs
    return (-(digitsValue digits : Int), rest)
  | '+' :: cs => do
    let (digits, rest) ← scanDigits cs
    return (digitsValue digits, rest)
  | cs => do
    let (digits, rest) ← scanDigits cs
    return (digitsValue digits, rest)

def scanExponent : List Char → Except Fault (Option Int × List Char)
  | 'e' :: cs | 'E' :: cs => do
    let (exponent, rest) ← scanExponentDigits cs
    return (some exponent, rest)
  | cs => return (none, cs)

/-- Reads a numeral and gives what follows it. -/
def scan (cs : List Char) : Except Fault (Numeral × List Char) := do
  let (negative, cs) := match cs with
    | '-' :: rest => (true, rest)
    | cs => (false, cs)
  let (whole, cs) ← scanWhole cs
  let (fraction, cs) ← scanFraction cs
  let (exponent, cs) ← scanExponent cs
  return (⟨negative, whole, fraction, exponent⟩, cs)

/-- Appends digits to a significand while it fits 64 bits, and gives the digits left over. -/
def fill (significand : Nat) : List Char → Nat × List Char
  | [] => (significand, [])
  | c :: cs =>
    let next := 10 * significand + digitValue c
    if next < UInt64.size then fill next cs else (significand, c :: cs)

/-- The double nearest to a power of ten, as an integer; for exponents up to 308. -/
def roundedPower (k : Nat) : Nat :=
  match Double.ofQuotient false (Nat.pow 10 k) 1 with
  | some d => d.numerator / Double.denominator
  | none => 0

/-- Divides by a power of ten, in steps of 308 digits; `fuel` bounds the steps. -/
def scaleDown (d : Double) (k : Nat) : Nat → Option Double
  | 0 => some ⟨d.negative, 0, Double.zero.finite⟩
  | fuel + 1 =>
    if k ≤ 308 then d.dividedBy (roundedPower k)
    else (d.dividedBy (roundedPower 308)).bind fun d => scaleDown d (k - 308) fuel

/-- Multiplies by a power of ten; nothing when the product is too great. -/
def scaleUp (d : Double) (k : Nat) : Option Double :=
  if k ≤ 308 then d.times (roundedPower k)
  else if d.ordinal = 0 then some d
  else none

/-- The double that a significand and a power of ten stand for. Three steps down of 308 digits
bring every significand to zero. -/
def scaled (negative : Bool) (significand : Nat) (exponent : Int) : Option Double := do
  let d ← Double.ofQuotient negative significand 1
  if exponent < 0 then scaleDown d exponent.natAbs 3 else scaleUp d exponent.natAbs

/-- The numeral read as a double. -/
def toDouble? (n : Numeral) : Option Double :=
  let (significand, unread) := fill 0 n.whole
  let (significand, unreadFraction) := fill significand n.fraction
  let point : Int := unread.length + unreadFraction.length - n.fraction.length
  scaled n.negative significand (point + n.exponent.getD 0)

/-- The number a numeral stands for; nothing when it is too great for a double. -/
def value? (n : Numeral) : Option Number :=
  let magnitude := digitsValue n.whole
  let signed : Int := if n.negative then -magnitude else magnitude
  if n.fraction.isEmpty && n.exponent.isNone && !(n.negative && magnitude = 0) then
    match Number.ofInt? signed with
    | some i => some i
    | none => n.toDouble?.map .double
  else n.toDouble?.map .double

/-- The readings of the numeral at the start of a text. A numeral that stops too early is never
told apart from a wrong one when it is skipped. -/
def read (cs : List Char) : Reading Number × List Char :=
  match scan cs with
  | .ok (n, rest) =>
    (⟨match n.value? with
      | some v => .ok v
      | none => .error .malformed, .ok ()⟩, rest)
  | .error f => (⟨.error f, .error .malformed⟩, [])

end Numeral

end Etl.Json
