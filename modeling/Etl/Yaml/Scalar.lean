import Etl.Json.Quoted
import Etl.Yaml.Cursor

/-!
Scalars of YAML: plain ones, quoted ones and blocks. Line breaks inside a scalar are folded: a
single break counts as a blank, and of several the first is dropped. A reader gives nothing when the
scalar is not well formed.
-/

namespace Etl.Yaml

/-- What stands between two words of a scalar. -/
inductive Gap where
  | blanks (text : List Char)
  /-- A line break and those of the empty lines after it, with any blanks around them. -/
  | breaks (first more : List Char)

namespace Gap

def empty : Gap := .blanks []

/-- Whether a line break was passed. -/
def broken : Gap → Bool
  | .blanks _ => false
  | .breaks _ _ => true

/-- What the gap counts as in the text. -/
def text : Gap → List Char
  | .blanks text => text
  | .breaks first more =>
    if first = ['\n'] then if more.isEmpty then [' '] else more else first ++ more

/-- Reads the breaks of empty lines at the start of a line, and the blanks before the next word. A
tab may not stand before the column `indent`; `fuel` bounds the characters. -/
def scanMore (indent : Nat) : Nat → Cursor → Option (List Char × Cursor)
  | 0, c => some ([], c)
  | fuel + 1, c =>
    match c.rest with
    | [] => some ([], c)
    | x :: _ =>
      if isBlank x then
        if x = '\t' && c.column < indent then none else scanMore indent fuel (c.skip 1)
      else if isBreak x then do
        let (lineBreak, c) := c.skipBreak
        let (more, c) ← scanMore indent fuel c
        return (lineBreak ++ more, c)
      else some ([], c)

/-- Reads blanks and line breaks. -/
def scan (indent fuel : Nat) (c : Cursor) : Option (Gap × Cursor) :=
  let blanks := c.rest.takeWhile isBlank
  let c := c.skip blanks.length
  if c.sees isBreak then do
    let (first, c) := c.skipBreak
    let (more, c) ← scanMore indent fuel c
    return (.breaks first more, c)
  else some (.blanks blanks, c)

end Gap

/-- The characters that end a plain scalar inside brackets. -/
def isFlowMark (c : Char) : Bool :=
  c = ',' || c = '[' || c = ']' || c = '\x7b' || c = '\x7d'

/-- Reads a run of a plain scalar up to a gap, a colon before a gap or, inside brackets, a mark. -/
def plainRun (flow : Bool) : List Char → Option (List Char)
  | [] => some []
  | c :: cs =>
    if isGap (some c) || (c = ':' && isGap cs.head?) then some []
    else if flow && c = ':' && cs.head?.any (fun d => isFlowMark d || d = '?') then none
    else if flow && isFlowMark c then some []
    else (plainRun flow cs).map (c :: ·)

/-- Reads a plain scalar whose further lines begin at the column `indent` or after it, from the gap
before its next word on. Gives also whether it ends after a line break. -/
def scanPlain (flow : Bool) (indent : Nat) : Nat → Gap → Cursor → Option (List Char × Bool × Cursor)
  | 0, gap, c => some ([], gap.broken, c)
  | fuel + 1, gap, c =>
    if c.atDocumentMark || c.sees (· = '#') then some ([], gap.broken, c)
    else do
      let run ← plainRun flow c.rest
      let (text, gap) := if run.isEmpty then ([], gap) else (gap.text ++ run, Gap.empty)
      let c := c.skip run.length
      if !c.sees (fun x => isBlank x || isBreak x) then return (text, gap.broken, c)
      let (gap, c) ← Gap.scan indent (fuel + 1) c
      if !flow && c.column < indent then return (text, gap.broken, c)
      let (more, broken, c) ← scanPlain flow indent fuel gap c
      return (text ++ more, broken, c)

/-- Why a run of quoted text ends. -/
inductive RunEnd where
  | quote
  /-- A line break that was escaped, so that it does not count. -/
  | escapedBreak
  | gap
deriving DecidableEq

/-- Reads a run of text in single quotes, with the number of characters it takes. A quote is written
twice. -/
def singleRun : List Char → List Char × RunEnd × Nat
  | [] => ([], .gap, 0)
  | '\x27' :: '\x27' :: cs =>
    let (run, why, n) := singleRun cs
    ('\x27' :: run, why, n + 2)
  | c :: cs =>
    if c = '\x27' then ([], .quote, 0)
    else if isGap (some c) then ([], .gap, 0)
    else
      let (run, why, n) := singleRun cs
      (c :: run, why, n + 1)

/-- The character that a letter after a backslash stands for. -/
def escapedBy? (c : Char) : Option Char :=
  match c with
  | '0' => some '\x00'
  | 'a' => some '\x07'
  | 'b' => some '\x08'
  | 't' | '\t' => some '\t'
  | 'n' => some '\n'
  | 'v' => some '\x0b'
  | 'f' => some '\x0c'
  | 'r' => some '\r'
  | 'e' => some '\x1b'
  | ' ' => some ' '
  | '\x22' => some '\x22'
  | '/' => some '/'
  | '\x5c' => some '\x5c'
  | 'N' => some '\u0085'
  | '_' => some '\u00a0'
  | 'L' => some '\u2028'
  | 'P' => some '\u2029'
  | _ => none

/-- How many hexadecimal digits follow a letter after a backslash. -/
def hexLength? (c : Char) : Option Nat :=
  match c with
  | 'x' => some 2
  | 'u' => some 4
  | 'U' => some 8
  | _ => none

/-- The character with a number in hexadecimal digits. -/
def hexChar? (digits : List Char) : Option Char := do
  let code ← digits.foldlM (fun n d => (Json.Quoted.hexValue? d).map (16 * n + ·)) 0
  if (0xD800 ≤ code && code ≤ 0xDFFF) || 0x10FFFF < code then none else some (Char.ofNat code)

/-- Reads a run of text in double quotes, with the number of characters it takes; `fuel` bounds
them. -/
def doubleRun : Nat → List Char → Option (List Char × RunEnd × Nat)
  | 0, _ => some ([], .gap, 0)
  | _, [] => some ([], .gap, 0)
  | fuel + 1, c :: cs =>
    if c = '\x22' then some ([], .quote, 0)
    else if isGap (some c) then some ([], .gap, 0)
    else if c = '\x5c' then
      match cs with
      | [] => none
      | e :: cs =>
        if isBreak e then some ([], .escapedBreak, 1)
        else do
          let digits := (hexLength? e).map cs.take
          if (hexLength? e).any fun n => digits.any fun d => d.length < n then none
          let char ← match digits with
            | some digits => hexChar? digits
            | none => escapedBy? e
          let length := (hexLength? e).getD 0
          let (run, why, n) ← doubleRun fuel (cs.drop length)
          return (char :: run, why, n + length + 2)
    else do
      let (run, why, n) ← doubleRun fuel cs
      return (c :: run, why, n + 1)

/-- Reads quoted text after its first quote, and moves over the last one. -/
def scanQuoted (single : Bool) : Nat → Cursor → Option (List Char × Cursor)
  | 0, _ => none
  | fuel + 1, c =>
    if c.atDocumentMark || c.rest.isEmpty then none
    else do
      let (run, why, n) ←
        if single then some (singleRun c.rest) else doubleRun (fuel + 1) c.rest
      let c := c.skip n
      if why = .quote then return (run, c.skip 1)
      let (gap, c) ←
        if why = .escapedBreak then Gap.scanMore 0 (fuel + 1) c.skipBreak.2
        else (Gap.scan 0 (fuel + 1) c).map fun (gap, c) => (gap.text, c)
      let (more, c) ← scanQuoted single fuel c
      return (run ++ gap ++ more, c)

/-- What happens to the line breaks at the end of a block. -/
inductive Chomp where
  | strip
  | clip
  | keep
deriving DecidableEq

/-- Reads the header of a block: how its end is treated and how far it is indented, in any order. -/
def scanHeader (c : Cursor) : Option (Chomp × Option Nat × Cursor) :=
  let chompOf (x : Char) : Option Chomp :=
    if x = '-' then some .strip else if x = '+' then some .keep else none
  let indentOf (x : Char) : Option Nat :=
    if '0' ≤ x && x ≤ '9' then some (x.toNat - '0'.toNat) else none
  let (chomp, indent, c) := match c.rest with
    | x :: y :: _ =>
      match chompOf x, indentOf x with
      | some chomp, _ =>
        match indentOf y with
        | some n => (chomp, some n, c.skip 2)
        | none => (chomp, none, c.skip 1)
      | none, some n =>
        match chompOf y with
        | some chomp => (chomp, some n, c.skip 2)
        | none => (.clip, some n, c.skip 1)
      | none, none => (.clip, none, c)
    | [x] =>
      match chompOf x, indentOf x with
      | some chomp, _ => (chomp, none, c.skip 1)
      | none, some n => (.clip, some n, c.skip 1)
      | none, none => (.clip, none, c)
    | [] => (.clip, none, c)
  if indent = some 0 then none else some (chomp, indent, c)

/-- Reads the indentation and the empty lines before a line of a block. Where the indentation of
the block is not known yet, gives also the greatest column reached. -/
def scanBreaks (indent : Option Nat) : Nat → Nat → Cursor → Option (Nat × List Char × Cursor)
  | 0, deepest, c => some (deepest, [], c)
  | fuel + 1, deepest, c =>
    let spaces := (c.rest.takeWhile (· = ' ')).length
    let c := c.skip <| match indent with
      | none => spaces
      | some n => min spaces (n - c.column)
    let deepest := max deepest c.column
    if (indent.all fun n => c.column < n) && c.sees (· = '\t') then none
    else if c.sees isBreak then do
      let (lineBreak, c) := c.skipBreak
      let (deepest, more, c) ← scanBreaks indent fuel deepest c
      return (deepest, lineBreak ++ more, c)
    else some (deepest, [], c)

/-- What is known of the last line of a block before the next one is read. -/
structure LastLine where
  /-- The break at its end. -/
  ending : List Char
  /-- The breaks of the empty lines after it. -/
  empties : List Char
  startsBlank : Bool

/-- Reads the lines of a block that stand at the column `indent`. -/
def scanLines (literal : Bool) (indent : Nat) :
    Nat → LastLine → Cursor → Option (List Char × LastLine × Cursor)
  | 0, last, c => some ([], last, c)
  | fuel + 1, last, c =>
    if c.column ≠ indent || c.rest.isEmpty then some ([], last, c)
    else do
      let blank := c.sees isBlank
      let joint :=
        if !literal && last.ending = ['\n'] && !last.startsBlank && !blank then
          if last.empties.isEmpty then [' '] else []
        else last.ending
      let line := c.rest.takeWhile fun x => !isBreak x
      let (ending, c) := (c.skip line.length).skipBreak
      let (_, empties, c) ← scanBreaks (some indent) (fuel + 1) 0 c
      let (more, final, c) ← scanLines literal indent fuel ⟨ending, empties, blank⟩ c
      return (joint ++ last.empties ++ line ++ more, final, c)

/-- Reads a block after its mark; `outer` is the column of the structure it stands in, raised by
one, and `fuel` bounds the lines. -/
def scanBlock (literal : Bool) (outer fuel : Nat) (c : Cursor) : Option (List Char × Cursor) := do
  let (chomp, given, c) ← scanHeader c
  let c := c.skipWhile isBlank
  let c := if c.sees (· = '#') then c.skipLine else c
  if !c.rest.isEmpty && !c.sees isBreak then none
  let (_, c) := c.skipBreak
  let known := given.map fun n => (outer - 1) + n
  let (deepest, breaks, c) ← scanBreaks known fuel 0 c
  let indent := known.getD (max deepest (max outer 1))
  let (text, last, c) ← scanLines literal indent fuel ⟨[], breaks, false⟩ c
  let ending := match chomp with
    | .strip => []
    | .clip => last.ending
    | .keep => last.ending ++ last.empties
  return (text ++ ending, c)

end Etl.Yaml
