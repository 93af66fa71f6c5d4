import Etl.Json.Fault
import Etl.Decimal.Shortest

/-!
Text between quotes. Writing escapes the quote, the backslash and the control characters. Reading
first cuts the text into characters and escaped 16-bit units, and then joins the units that are
surrogate pairs; a unit that stays alone has no value but may be skipped.
-/

namespace Etl.Json.Quoted

def hexDigit (n : Nat) : Char := Nat.digitChar (n % 16)

/-- How one character is written. -/
def encodeChar (c : Char) : List Char :=
  if c = '\x22' then ['\x5c', '\x22']
  else if c = '\x5c' then ['\x5c', '\x5c']
  else if c = '\x08' then ['\x5c', 'b']
  else if c = '\x0c' then ['\x5c', 'f']
  else if c = '\n' then ['\x5c', 'n']
  else if c = '\r' then ['\x5c', 'r']
  else if c = '\t' then ['\x5c', 't']
  else if c.toNat < 0x20 then
    ['\x5c', 'u', '0', '0', hexDigit (c.toNat / 16), hexDigit c.toNat]
  else [c]

/-- A text between quotes. -/
def encode (cs : List Char) : List Char :=
  '\x22' :: (cs.flatMap encodeChar ++ ['\x22'])

/-- A piece of quoted text. -/
inductive Piece where
  | char (c : Char)
  /-- A 16-bit unit written by its number. -/
  | unit (code : Nat)

/-- The value of a hexadecimal digit. -/
def hexValue? (c : Char) : Option Nat :=
  if '0' ≤ c ∧ c ≤ '9' then some (c.toNat - 48)
  else if 'a' ≤ c ∧ c ≤ 'f' then some (c.toNat - 87)
  else if 'A' ≤ c ∧ c ≤ 'F' then some (c.toNat - 55)
  else none

/-- The value of four hexadecimal digits. -/
def fourHex? (a b c d : Char) : Option Nat := do
  return ((← hexValue? a) * 16 + (← hexValue? b)) * 256 + (← hexValue? c) * 16 + (← hexValue? d)

/-- Reads a unit's number. Only a text with fewer than four bytes left is cut short. -/
def scanUnit (cs : List Char) : Except Fault (Nat × List Char) :=
  if (cs.take 4).foldl (fun n c => n + c.utf8Size) 0 < 4 then .error .truncated
  else match cs with
    | a :: b :: c :: d :: rest =>
      match fourHex? a b c d with
      | some code => .ok (code, rest)
      | none => .error .malformed
    | _ => .error .malformed

/-- The character that a letter after a backslash stands for. -/
def escapedBy? (c : Char) : Option Char :=
  if c = '\x22' || c = '\x5c' || c = '/' then some c
  else if c = 'b' then some '\x08'
  else if c = 'f' then some '\x0c'
  else if c = 'n' then some '\n'
  else if c = 'r' then some '\r'
  else if c = 't' then some '\t'
  else none

/-- Reads what follows a backslash. -/
def scanEscape : List Char → Except Fault (Piece × List Char)
  | [] => .error .truncated
  | 'u' :: cs => do
    let (code, rest) ← scanUnit cs
    return (.unit code, rest)
  | c :: cs =>
    match escapedBy? c with
    | some c => .ok (.char c, cs)
    | none => .error .malformed

/-- The pieces up to the closing quote, how they end, and what follows; `fuel` bounds the pieces. -/
def scan : Nat → List Char → List Piece × Except Fault Unit × List Char
  | 0, _ => ([], .error .truncated, [])
  | _, [] => ([], .error .truncated, [])
  | fuel + 1, c :: cs =>
    if c = '\x22' then ([], .ok (), cs)
    else if c = '\x5c' then
      match scanEscape cs with
      | .error f => ([], .error f, [])
      | .ok (piece, rest) =>
        let (pieces, ending, rest) := scan fuel rest
        (piece :: pieces, ending, rest)
    else if c.toNat < 0x20 then ([], .error .malformed, [])
    else
      let (pieces, ending, rest) := scan fuel cs
      (.char c :: pieces, ending, rest)

def isHighSurrogate (n : Nat) : Bool := 0xD800 ≤ n && n ≤ 0xDBFF

def isLowSurrogate (n : Nat) : Bool := 0xDC00 ≤ n && n ≤ 0xDFFF

/-- Joins the pieces to characters; a surrogate without its partner is a fault. -/
def join (ending : Except Fault Unit) : List Piece → Except Fault (List Char)
  | [] => ending.map fun _ => []
  | .char c :: pieces => (join ending pieces).map (c :: ·)
  | .unit n :: pieces =>
    if isLowSurrogate n then .error .malformed
    else if isHighSurrogate n then
      match pieces with
      | [] => ending.bind fun _ => .error .malformed
      | .char _ :: _ => .error .malformed
      | .unit m :: pieces =>
        if isLowSurrogate m then
          (join ending pieces).map
            (Char.ofNat (0x10000 + (n - 0xD800) * 0x400 + (m - 0xDC00)) :: ·)
        else .error .malformed
    else (join ending pieces).map (Char.ofNat n :: ·)

/-- The readings of a text whose opening quote has been read. -/
def read (cs : List Char) : Reading String × List Char :=
  let (pieces, ending, rest) := scan (cs.length + 1) cs
  (⟨(join ending pieces).map String.ofList, ending⟩, rest)

end Etl.Json.Quoted
