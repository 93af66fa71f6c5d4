/-!
Why a text is not JSON. A text that stops inside a value is told apart from one that goes on with a
wrong character. Scalars are read in two ways: strictly where their value is wanted, and leniently
where the value is only skipped.
-/

namespace Etl.Json

inductive Fault where
  /-- A character that cannot stand where it does. -/
  | malformed
  /-- The text ends inside a value. -/
  | truncated
deriving DecidableEq, Repr

/-- The two readings of one scalar: its value, and whether it may be skipped. -/
structure Reading (α : Type) where
  strict : Except Fault α
  lenient : Except Fault Unit

/-- The characters that separate JSON tokens. -/
def isSpace (c : Char) : Bool := c = ' ' || c = '\n' || c = '\t' || c = '\r'

end Etl.Json
