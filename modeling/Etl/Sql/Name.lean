import Etl.Text.Blank

/-!
Names in SQL. A name that is a plain word stands as it is; any other is put between quotes, with the
quotes inside it doubled. Dots separate the parts of a table's name.
-/

namespace Etl.Sql

def isLetter (c : Char) : Bool := ('a' ≤ c && c ≤ 'z') || ('A' ≤ c && c ≤ 'Z')

def isDigit (c : Char) : Bool := '0' ≤ c && c ≤ '9'

/-- The characters of a plain word. -/
def isWordChar (c : Char) : Bool := isLetter c || isDigit c || c = '_'

/-- Whether a name can stand without quotes. -/
def isWord : List Char → Bool
  | [] => false
  | c :: cs => !isDigit c && (c :: cs).all isWordChar

/-- Puts a text between quotes and doubles the quotes inside it. -/
def enclose (quote : Char) (cs : List Char) : List Char :=
  quote :: (cs.flatMap fun c => if c = quote then [quote, quote] else [c]) ++ [quote]

/-- A name as one part. -/
def quoteName (name : String) : String :=
  if isWord name.toList then name else String.ofList (enclose '\x22' name.toList)

/-- A text value. -/
def quoteText (text : String) : String := String.ofList (enclose '\x27' text.toList)

/-- A table, with its schema where one is given. -/
def tableName (schema : Option String) (table : String) : String :=
  let parts := (schema.map (Text.split '.')).getD [] ++ Text.split '.' table
  ".".intercalate (parts.map quoteName)

/-- Turns every character that no plain word has into an underscore. -/
def sanitize (name : String) : String :=
  String.ofList (name.toList.map fun c => if isWordChar c then c else '_')

end Etl.Sql
