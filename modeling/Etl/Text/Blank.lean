/-!
Blank text. A character is blank when Unicode gives it the property White_Space; trimming removes
blank characters from the ends, and a text of blank characters counts as not given.
-/

namespace Etl.Text

/-- Whether a code point lies in one of the closed ranges. -/
def inRanges (ranges : List (Nat × Nat)) (n : Nat) : Bool :=
  ranges.any fun r => r.1 ≤ n && n ≤ r.2

/-- The 25 code points with the property White_Space. -/
def blankRanges : List (Nat × Nat) :=
  [(0x09, 0x0D), (0x20, 0x20), (0x85, 0x85), (0xA0, 0xA0), (0x1680, 0x1680), (0x2000, 0x200A),
   (0x2028, 0x2029), (0x202F, 0x202F), (0x205F, 0x205F), (0x3000, 0x3000)]

def isBlankChar (c : Char) : Bool := inRanges blankRanges c.toNat

/-- Removes from the end the longest run that satisfies a test. -/
def dropEndWhile {α : Type} (p : α → Bool) (l : List α) : List α :=
  (l.reverse.dropWhile p).reverse

/-- Removes blank characters from both ends. -/
def trimChars (cs : List Char) : List Char :=
  dropEndWhile isBlankChar (cs.dropWhile isBlankChar)

def trim (s : String) : String := String.ofList (trimChars s.toList)

/-- Whether a text holds nothing but blank characters. -/
def isBlank (s : String) : Bool := s.toList.all isBlankChar

/-- Cuts at every occurrence of a character; there is always one piece more than there are cuts. -/
def splitChars (separator : Char) : List Char → List (List Char)
  | [] => [[]]
  | c :: cs =>
    if c = separator then [] :: splitChars separator cs
    else match splitChars separator cs with
      | [] => [[c]]
      | piece :: pieces => (c :: piece) :: pieces

def split (separator : Char) (s : String) : List String :=
  (splitChars separator s.toList).map String.ofList

/-- Lowers the ASCII letters and keeps every other character. -/
def lowerAscii (s : String) : String :=
  String.ofList (s.toList.map fun c =>
    if 'A' ≤ c ∧ c ≤ 'Z' then Char.ofNat (c.toNat + 32) else c)

end Etl.Text
