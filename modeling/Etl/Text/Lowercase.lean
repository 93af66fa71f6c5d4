import Etl.Text.Blank
import Etl.Text.CaseTable

/-!
Lowercase text by the full Unicode mapping. Two characters need more than a table: a capital I with
a dot becomes two characters, and a capital sigma takes its final form at the end of a word.
-/

namespace Etl.Text

/-- The simple lowercase mapping of one code point. -/
def lowercaseCode (n : Nat) : Nat :=
  match lowercaseRuns.find? fun (first, last, step, _) =>
      first ≤ n && n ≤ last && (n - first) % step == 0 with
  | some (_, _, _, distance) => (n + distance).toNat
  | none => n

def isCased (c : Char) : Bool := inRanges casedRanges c.toNat

def isCaseIgnorable (c : Char) : Bool := inRanges caseIgnorableRanges c.toNat

/-- Whether the first character that case does not ignore is a cased one. -/
def meetsCased (cs : List Char) : Bool :=
  match cs.find? fun c => !isCaseIgnorable c with
  | some c => isCased c
  | none => false

/-- Lowers a text; `before` holds the characters already passed, nearest first. -/
def lowercaseFrom (before : List Char) : List Char → List Char
  | [] => []
  | c :: after =>
    let lowered :=
      if c = 'Σ' then if meetsCased before && !meetsCased after then ['ς'] else ['σ']
      else if c = 'İ' then ['i', '\u0307']
      else [Char.ofNat (lowercaseCode c.toNat)]
    lowered ++ lowercaseFrom (c :: before) after

def lowercase (s : String) : String := String.ofList (lowercaseFrom [] s.toList)

end Etl.Text
