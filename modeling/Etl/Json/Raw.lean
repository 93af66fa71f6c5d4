import Etl.Json.Numeral
import Etl.Json.Quoted

/-!
The shape of a JSON text before its values are looked at. A text is cut into tokens and the tokens
are arranged in a tree. Faults are kept at the place where they occur, so that a reader that walks
the tree in text order meets first what comes first.
-/

namespace Etl.Json

inductive Mark where
  | openList | closeList | openObject | closeObject | comma | colon
deriving DecidableEq

/-- The words of JSON; `none` stands for null. -/
abbrev Word := Option Bool

inductive Lexeme where
  | mark (m : Mark)
  | text (r : Reading String)
  | number (r : Reading Number)
  | word (r : Except Fault Word)
  /-- A character with which no token begins. -/
  | stray

namespace Lexeme

/-- The bracket or separator that a character is. -/
def markOf? (c : Char) : Option Mark :=
  if c = '[' then some .openList
  else if c = ']' then some .closeList
  else if c = '\x7b' then some .openObject
  else if c = '\x7d' then some .closeObject
  else if c = ',' then some .comma
  else if c = ':' then some .colon
  else none

/-- The word that a letter begins, with its other letters. -/
def wordOf? (c : Char) : Option (Word × List Char) :=
  if c = 'n' then some (none, ['u', 'l', 'l'])
  else if c = 't' then some (some true, ['r', 'u', 'e'])
  else if c = 'f' then some (some false, ['a', 'l', 's', 'e'])
  else none

/-- Reads the letters of a word, one by one. -/
def scanWord : List Char → List Char → Except Fault (List Char)
  | [], cs => .ok cs
  | _ :: _, [] => .error .truncated
  | w :: ws, c :: cs => if w = c then scanWord ws cs else .error .malformed

/-- The token at the start of a text that begins with no blank, and what follows it. -/
def next (c : Char) (cs : List Char) : Lexeme × List Char :=
  match markOf? c with
  | some m => (.mark m, cs)
  | none =>
    match wordOf? c with
    | some (w, letters) =>
      match scanWord letters cs with
      | .ok rest => (.word (.ok w), rest)
      | .error f => (.word (.error f), [])
    | none =>
      if c = '\x22' then
        let (r, rest) := Quoted.read cs
        (.text r, rest)
      else if c = '-' || Numeral.isDigit c then
        let (r, rest) := Numeral.read (c :: cs)
        (.number r, rest)
      else (.stray, [])

/-- The tokens of a text; `fuel` bounds their number. -/
def scan : Nat → List Char → List Lexeme
  | 0, _ => []
  | _, [] => []
  | fuel + 1, c :: cs =>
    if isSpace c then scan fuel cs
    else
      let (lexeme, rest) := next c cs
      lexeme :: scan fuel rest

end Lexeme

/-- How a list or an object ends. -/
inductive Ending where
  | closed
  | cut (fault : Fault)
deriving DecidableEq

/-- A text arranged as a tree. -/
inductive Raw where
  /-- No value begins here. -/
  | missing (fault : Fault)
  | text (r : Reading String)
  | number (r : Reading Number)
  | word (r : Except Fault Word)
  | list (items : List Raw) (ending : Ending)
  /-- The keys stand where texts belong, but may be anything. -/
  | object (members : List (Raw × Raw)) (ending : Ending)

namespace Raw

mutual

/-- Arranges the value at the start of a run of tokens; `fuel` bounds the tokens looked at. -/
def arrange : Nat → List Lexeme → Raw × List Lexeme
  | 0, _ => (.missing .truncated, [])
  | _, [] => (.missing .truncated, [])
  | fuel + 1, lexeme :: rest =>
    match lexeme with
    | .text r => (.text r, rest)
    | .number r => (.number r, rest)
    | .word r => (.word r, rest)
    | .mark .openList =>
      match rest with
      | .mark .closeList :: rest => (.list [] .closed, rest)
      | [] => (.list [] (.cut .truncated), [])
      | rest =>
        let (items, ending, rest) := arrangeItems fuel rest
        (.list items ending, rest)
    | .mark .openObject =>
      match rest with
      | .mark .closeObject :: rest => (.object [] .closed, rest)
      | [] => (.object [] (.cut .truncated), [])
      | rest =>
        let (members, ending, rest) := arrangeMembers fuel rest
        (.object members ending, rest)
    | _ => (.missing .malformed, lexeme :: rest)

/-- Arranges items separated by commas up to the closing bracket. -/
def arrangeItems : Nat → List Lexeme → List Raw × Ending × List Lexeme
  | 0, _ => ([], .cut .truncated, [])
  | fuel + 1, lexemes =>
    let (item, rest) := arrange fuel lexemes
    match rest with
    | .mark .closeList :: rest => ([item], .closed, rest)
    | .mark .comma :: rest =>
      let (items, ending, rest) := arrangeItems fuel rest
      (item :: items, ending, rest)
    | [] => ([item], .cut .truncated, [])
    | rest => ([item], .cut .malformed, rest)

/-- Arranges keys and values separated by commas up to the closing bracket. -/
def arrangeMembers : Nat → List Lexeme → List (Raw × Raw) × Ending × List Lexeme
  | 0, _ => ([], .cut .truncated, [])
  | fuel + 1, lexemes =>
    let (key, rest) := arrange fuel lexemes
    let (value, rest) := match rest with
      | .mark .colon :: rest => arrange fuel rest
      | [] => (.missing .truncated, [])
      | rest => (.missing .malformed, rest)
    match rest with
    | .mark .closeObject :: rest => ([(key, value)], .closed, rest)
    | .mark .comma :: rest =>
      let (members, ending, rest) := arrangeMembers fuel rest
      ((key, value) :: members, ending, rest)
    | [] => ([(key, value)], .cut .truncated, [])
    | rest => ([(key, value)], .cut .malformed, rest)

end

/-- The tree of a text, and whether anything follows it. Every token takes at most two steps: one
for the list or object it stands in and one for its own value. -/
def ofText (s : String) : Raw × Bool :=
  let cs := s.toList
  let lexemes := Lexeme.scan cs.length cs
  let (raw, rest) := arrange (2 * lexemes.length + 1) lexemes
  (raw, !rest.isEmpty)

end Raw

end Etl.Json
