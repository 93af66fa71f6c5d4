import Etl.Json.Numeral

/-!
What plain scalars stand for. Null and the two truth values have a few spellings, integers can be
written in four bases, and decimal fractions are rounded to the nearest double. Digits after a
leading zero are text.
-/

namespace Etl.Yaml

def isNull (s : String) : Bool := ["null", "Null", "NULL", "~"].contains s

def bool? (s : String) : Option Bool :=
  if ["true", "True", "TRUE"].contains s then some true
  else if ["false", "False", "FALSE"].contains s then some false
  else none

/-- The value of a digit in a base. -/
def digit? (base : Nat) (c : Char) : Option Nat :=
  let value :=
    if '0' ≤ c && c ≤ '9' then c.toNat - 48
    else if 'a' ≤ c && c ≤ 'f' then c.toNat - 87
    else if 'A' ≤ c && c ≤ 'F' then c.toNat - 55
    else base
  if value < base then some value else none

/-- The value of a non-empty run of digits. -/
def natural? (base : Nat) (cs : List Char) : Option Nat :=
  if cs.isEmpty then none
  else cs.foldlM (fun n c => (digit? base c).map (base * n + ·)) 0

/-- The value of digits in any base, which are decimal where no base is named. -/
def magnitude? : List Char → Option Nat
  | '0' :: 'x' :: cs => natural? 16 cs
  | '0' :: 'o' :: cs => natural? 8 cs
  | '0' :: 'b' :: cs => natural? 2 cs
  | '0' :: c :: cs =>
    if (c :: cs).all Json.Numeral.isDigit then none else natural? 10 ('0' :: c :: cs)
  | cs => natural? 10 cs

/-- An integer with its sign. -/
def integer? : List Char → Option Int
  | '-' :: cs => (magnitude? cs).map fun n => -(n : Int)
  | '+' :: cs => (magnitude? cs).map fun n => (n : Int)
  | cs => (magnitude? cs).map fun n => (n : Int)

/-- A number with a sign, and without the sign. -/
def unsigned (cs : List Char) : Bool × List Char :=
  match cs with
  | '-' :: rest => (true, rest)
  | '+' :: rest => (false, rest)
  | cs => (false, cs)

/-- The power of ten after the letter of an exponent. -/
def power? : List Char → Option Int
  | [] => some 0
  | c :: cs =>
    if c = 'e' || c = 'E' then
      let (negative, digits) := unsigned cs
      if digits.all Json.Numeral.isDigit then
        (natural? 10 digits).map fun n => if negative then -(n : Int) else n
      else none
    else none

/-- The double nearest to `digits * 10 ^ power`. Powers far beyond the range of doubles are not
computed. -/
def nearest? (negative : Bool) (digits : Nat) (power : Int) : Option Double :=
  let reach := power + (Decimal.digitsOf digits).length
  if digits = 0 || reach < -400 then some ⟨negative, 0, Double.zero.finite⟩
  else if 400 < reach then none
  else Double.ofQuotient negative (digits * Nat.pow 10 power.toNat) (Nat.pow 10 (-power).toNat)

/-- A decimal fraction; a point needs digits on one side only. -/
def fraction? (cs : List Char) : Option Double := do
  let (negative, cs) := unsigned cs
  let (whole, cs) := cs.span Json.Numeral.isDigit
  let (parts, cs) := match cs with
    | '.' :: cs => cs.span Json.Numeral.isDigit
    | cs => ([], cs)
  if whole.isEmpty && parts.isEmpty then none
  let power ← power? cs
  nearest? negative (Json.Numeral.digitsValue (whole ++ parts)) (power - parts.length)

/-- The names of the infinities and of what is not a number. -/
def isNotFinite (s : String) : Bool :=
  [".inf", ".Inf", ".INF", "+.inf", "+.Inf", "+.INF", "-.inf", "-.Inf", "-.INF",
    ".nan", ".NaN", ".NAN"].contains s

/-- Digits that are text because of a zero in front. -/
def isZeroLed (cs : List Char) : Bool :=
  match (unsigned cs).2 with
  | '0' :: c :: cs => (c :: cs).all Json.Numeral.isDigit
  | _ => false

/-- Whether an integer fits 128 bits, signed or unsigned. -/
def fitsWide (i : Int) : Bool :=
  -170141183460469231731687303715884105728 ≤ i && i < 340282366920938463463374607431768211456

/-- What a plain scalar stands for. -/
inductive Resolved where
  | null
  | bool (b : Bool)
  | integer (i : Int)
  | double (d : Double)
  | notFinite
  | text (s : String)

/-- Finds out what a plain scalar stands for. Integers of more than 128 bits are doubles. -/
def resolve (s : String) : Resolved :=
  let cs := s.toList
  if s = "" || isNull s then .null
  else
    match bool? s with
    | some b => .bool b
    | none =>
      match (integer? cs).filter fitsWide with
      | some i => .integer i
      | none =>
        if isZeroLed cs then .text s
        else if isNotFinite s then .notFinite
        else
          match fraction? cs with
          | some d => .double d
          | none => .text s

end Etl.Yaml
