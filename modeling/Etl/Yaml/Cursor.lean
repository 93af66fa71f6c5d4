/-!
A place in a YAML text: what is left of it, and the line and column reached. Indentation is a matter
of columns, so every reader of YAML moves through the text by such a place.
-/

namespace Etl.Yaml

def isBlank (c : Char) : Bool := c = ' ' || c = '\t'

/-- The characters that end a line. -/
def isBreak (c : Char) : Bool :=
  c = '\n' || c = '\r' || c = '\u0085' || c = '\u2028' || c = '\u2029'

/-- Whether nothing but a blank, a line break or the end of the text stands here. -/
def isGap : Option Char → Bool
  | none => true
  | some c => isBlank c || isBreak c

/-- The characters a YAML text may hold. -/
def isPrintable (c : Char) : Bool :=
  let n := c.toNat
  n = 0x09 || n = 0x0A || n = 0x0D || (0x20 ≤ n && n ≤ 0x7E) || n = 0x85 ||
    (0xA0 ≤ n && n ≤ 0xFFFD) || 0x10000 ≤ n

/-- The length of a text in bytes. -/
def byteLength (text : List Char) : Nat := text.foldl (fun n c => n + c.utf8Size) 0

/-- Columns count characters. -/
structure Cursor where
  rest : List Char
  line : Nat
  column : Nat
  /-- How many bytes have been passed. -/
  passed : Nat

namespace Cursor

def start (text : List Char) : Cursor := ⟨text, 0, 0, 0⟩

variable (c : Cursor)

/-- Whether the next character satisfies a test. -/
def sees (p : Char → Bool) : Bool :=
  match c.rest with
  | [] => false
  | x :: _ => p x

/-- Moves over characters that end no line. -/
def skip (n : Nat) : Cursor :=
  ⟨c.rest.drop n, c.line, c.column + n, c.passed + byteLength (c.rest.take n)⟩

/-- Moves over the characters that satisfy a test and end no line. -/
def skipWhile (p : Char → Bool) : Cursor := c.skip (c.rest.takeWhile p).length

/-- Moves over one line break, and gives it as it counts in a text: most breaks count as a line
feed, two as themselves. -/
def skipBreak : List Char × Cursor :=
  match c.rest with
  | '\r' :: '\n' :: rest => (['\n'], ⟨rest, c.line + 1, 0, c.passed + 2⟩)
  | x :: rest =>
    let next : Cursor := ⟨rest, c.line + 1, 0, c.passed + x.utf8Size⟩
    if x = '\u2028' || x = '\u2029' then ([x], next)
    else if isBreak x then (['\n'], next)
    else ([], c)
  | [] => ([], c)

/-- Moves to the end of the line. -/
def skipLine : Cursor := c.skipWhile fun x => !isBreak x

/-- Whether one of the two marks between documents stands here: three hyphens or three dots. -/
def atDocumentMark : Bool :=
  c.column = 0 && (c.rest.take 3 = ['-', '-', '-'] || c.rest.take 3 = ['.', '.', '.']) &&
    isGap c.rest[3]?

end Cursor

end Etl.Yaml
