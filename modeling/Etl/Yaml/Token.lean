import Etl.Yaml.Scalar

/-!
Tokens of YAML. Indentation becomes brackets of its own: a deeper column opens a block and a lesser
one closes it. Whether a scalar is a key is only known at the colon after it, so the place of every
possible key is remembered and the tokens that open it are put in later. A key stands on one line
and spans at most 1024 bytes. A byte order mark at the start of a line takes a column like any other
character. Anchors, aliases, tags and directives are not read.
-/

namespace Etl.Yaml

inductive Token where
  | documentStart
  | documentEnd
  | sequenceStart
  | mappingStart
  | blockEnd
  | openList
  | closeList
  | openMap
  | closeMap
  | comma
  | entry
  | key
  | value
  | scalar (plain : Bool) (text : String)
deriving DecidableEq

/-- A place where a key may have begun. -/
structure PossibleKey where
  /-- The number of tokens before it. -/
  place : Nat
  line : Nat
  column : Nat
  passed : Nat
  /-- Whether the block goes wrong if it is no key. -/
  required : Bool

structure Scanner where
  cursor : Cursor
  /-- The tokens read so far, the last one first. -/
  tokens : List Token
  /-- The number of tokens read so far. -/
  count : Nat
  /-- The columns of the open blocks, each raised by one, the innermost first. -/
  indents : List Nat
  /-- The possible keys: one for each open bracket and one for the blocks around them. -/
  keys : List (Option PossibleKey)
  /-- Whether a key may begin here. -/
  keyAllowed : Bool

namespace Scanner

def start (text : List Char) : Scanner := ⟨.start text, [], 0, [], [none], true⟩

def push (s : Scanner) (t : Token) : Scanner :=
  { s with tokens := t :: s.tokens, count := s.count + 1 }

/-- Puts a token before those from a place on. -/
def insert (s : Scanner) (place : Nat) (t : Token) : Scanner :=
  { s with tokens := s.tokens.insertIdx (s.count - place) t, count := s.count + 1 }

/-- Closes the blocks that are indented further than a raised column. -/
def unroll (column : Nat) : List Nat → Scanner → Scanner
  | [], s => { s with indents := [] }
  | i :: indents, s =>
    if column < i then unroll column indents (s.push .blockEnd)
    else { s with indents := i :: indents }

variable (s : Scanner)

/-- Whether the place is inside brackets. -/
def inFlow : Bool :=
  match s.keys with
  | _ :: _ :: _ => true
  | _ => false

/-- The column of the innermost block, raised by one; zero outside all blocks. -/
def indent : Nat := s.indents.head?.getD 0

/-- Closes blocks outside brackets. -/
def closeTo (column : Nat) : Scanner := if s.inFlow then s else unroll column s.indents s

/-- Opens a block at a column unless one is open there; its token goes before the tokens from a
place on. -/
def openAt (column place : Nat) (t : Token) : Scanner :=
  if !s.inFlow && s.indent < column + 1 then
    { s.insert place t with indents := (column + 1) :: s.indents }
  else s

/-- Gives up the innermost possible key. -/
def dropKey : Option Scanner :=
  match s.keys with
  | some k :: keys => if k.required then none else some { s with keys := none :: keys }
  | _ => some s

/-- Remembers that a key may begin here. -/
def saveKey : Option Scanner :=
  if s.keyAllowed then do
    let s ← s.dropKey
    let c := s.cursor
    let key : PossibleKey :=
      ⟨s.count, c.line, c.column, c.passed, !s.inFlow && s.indent = c.column + 1⟩
    return { s with keys := some key :: s.keys.drop 1 }
  else some s

/-- Gives up the innermost possible key if it is too far back. -/
def dropStale : Option Scanner :=
  match s.keys with
  | some k :: _ =>
    if k.line < s.cursor.line || k.passed + 1024 < s.cursor.passed then s.dropKey else some s
  | _ => some s

/-- Passes blanks, comments, line breaks, and a byte order mark at the start of a line. A tab counts
as a blank only where no key may begin; `fuel` bounds the lines. -/
def skipGaps : Nat → Scanner → Scanner
  | 0, s => s
  | fuel + 1, s =>
    let c := if s.cursor.column = 0 && s.cursor.sees (· = '\uFEFF') then s.cursor.skip 1
      else s.cursor
    let tabs := s.inFlow || !s.keyAllowed
    let c := c.skipWhile fun x => x = ' ' || (tabs && x = '\t')
    let c := if c.sees (· = '#') then c.skipLine else c
    if c.sees isBreak then
      skipGaps fuel
        { s with cursor := c.skipBreak.2, keyAllowed := s.keyAllowed || !s.inFlow }
    else { s with cursor := c }

/-- Reads a mark between documents. -/
def documentMark : Option Scanner := do
  let t : Token := if s.cursor.sees (· = '-') then .documentStart else .documentEnd
  let s ← (s.closeTo 0).dropKey
  return { s.push t with cursor := s.cursor.skip 3, keyAllowed := false }

def openBracket (t : Token) : Option Scanner := do
  let s ← s.saveKey
  return { s.push t with cursor := s.cursor.skip 1, keys := none :: s.keys, keyAllowed := true }

def closeBracket (t : Token) : Option Scanner := do
  let s ← s.dropKey
  let keys := if s.inFlow then s.keys.drop 1 else s.keys
  return { s.push t with cursor := s.cursor.skip 1, keys, keyAllowed := false }

def comma : Option Scanner := do
  let s ← s.dropKey
  return { s.push .comma with cursor := s.cursor.skip 1, keyAllowed := true }

/-- Reads the hyphen of an entry. -/
def entry : Option Scanner := do
  if !s.inFlow && !s.keyAllowed then none
  let s ← (s.openAt s.cursor.column s.count .sequenceStart).dropKey
  return { s.push .entry with cursor := s.cursor.skip 1, keyAllowed := true }

/-- Reads the question mark of a key. -/
def explicitKey : Option Scanner := do
  if !s.inFlow && !s.keyAllowed then none
  let s ← (s.openAt s.cursor.column s.count .mappingStart).dropKey
  return { s.push .key with cursor := s.cursor.skip 1, keyAllowed := !s.inFlow }

/-- Reads the colon before a value; the possible key becomes a key. -/
def value : Option Scanner := do
  match s.keys with
  | some k :: keys =>
    let s := { s.insert k.place .key with keys := none :: keys }
    let s := s.openAt k.column k.place .mappingStart
    return { s.push .value with cursor := s.cursor.skip 1, keyAllowed := false }
  | _ =>
    if !s.inFlow && !s.keyAllowed then none
    let s := s.openAt s.cursor.column s.count .mappingStart
    return { s.push .value with cursor := s.cursor.skip 1, keyAllowed := !s.inFlow }

def quoted (single : Bool) (fuel : Nat) : Option Scanner := do
  let s ← s.saveKey
  let (text, c) ← scanQuoted single fuel (s.cursor.skip 1)
  return { s.push (.scalar false (String.ofList text)) with cursor := c, keyAllowed := false }

def plain (fuel : Nat) : Option Scanner := do
  let s ← s.saveKey
  let (text, broken, c) ← scanPlain s.inFlow s.indent fuel .empty s.cursor
  return { s.push (.scalar true (String.ofList text)) with cursor := c, keyAllowed := broken }

def block (literal : Bool) (fuel : Nat) : Option Scanner := do
  let s ← s.dropKey
  let (text, c) ← scanBlock literal s.indent fuel (s.cursor.skip 1)
  return { s.push (.scalar false (String.ofList text)) with cursor := c, keyAllowed := true }

/-- The characters that begin no plain scalar, unless a rule of their own says so. -/
def isIndicator (c : Char) : Bool :=
  ['-', '?', ':', ',', '[', ']', '\x7b', '\x7d', '#', '&', '*', '!', '|', '>', '\x27', '\x22',
    '%', '@', '\x60'].contains c

/-- Reads the token that begins with the next character; `fuel` bounds the characters left. -/
def next (fuel : Nat) (x : Char) (after : Option Char) : Option Scanner :=
  let gap := isGap after
  if s.cursor.column = 0 && x = '%' then none
  else if s.cursor.atDocumentMark then s.documentMark
  else if x = '[' then s.openBracket .openList
  else if x = '\x7b' then s.openBracket .openMap
  else if x = ']' then s.closeBracket .closeList
  else if x = '\x7d' then s.closeBracket .closeMap
  else if x = ',' then s.comma
  else if x = '-' && gap then s.entry
  else if x = '?' && (s.inFlow || gap) then s.explicitKey
  else if x = ':' && (s.inFlow || gap) then s.value
  else if x = '|' && !s.inFlow then s.block true fuel
  else if x = '>' && !s.inFlow then s.block false fuel
  else if x = '\x27' then s.quoted true fuel
  else if x = '\x22' then s.quoted false fuel
  else if (!isGap (some x) && !isIndicator x) || x = '-' || (!s.inFlow && (x = '?' || x = ':')) then
    s.plain fuel
  else none

/-- Reads all tokens; `fuel` is greater than the number of characters left. -/
def run : Nat → Scanner → Option (List Token)
  | 0, _ => none
  | fuel + 1, s => do
    let s ← (skipGaps (fuel + 1) s).dropStale
    match s.cursor.rest with
    | [] =>
      let s ← (s.closeTo 0).dropKey
      return s.tokens.reverse
    | x :: rest =>
      let s := s.closeTo (s.cursor.column + 1)
      run fuel (← s.next (fuel + 1) x rest.head?)

end Scanner

/-- The tokens of a text. -/
def Token.scan (text : String) : Option (List Token) :=
  let cs := text.toList
  if cs.all isPrintable then Scanner.run (cs.length + 1) (.start cs) else none

end Etl.Yaml
