/-!
Replacement of every occurrence of one text by another, from left to right and without overlaps.
-/

namespace Etl.Text

/-- Replaces a pattern; `skip` counts the characters of an occurrence still to be passed. -/
def replaceChars (pattern replacement : List Char) : Nat → List Char → List Char
  | _, [] => []
  | skip + 1, _ :: cs => replaceChars pattern replacement skip cs
  | 0, c :: cs =>
    if pattern.isPrefixOf (c :: cs) then
      replacement ++ replaceChars pattern replacement (pattern.length - 1) cs
    else c :: replaceChars pattern replacement 0 cs

def replaceAll (pattern replacement s : String) : String :=
  String.ofList (replaceChars pattern.toList replacement.toList 0 s.toList)

end Etl.Text
