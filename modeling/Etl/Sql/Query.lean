import Etl.Settings.Basic
import Etl.Sql.Name
import Etl.Text.Replace

/-!
Queries over the relations of a node's predecessors. One input stands by its name; several are
united under an alias.
-/

namespace Etl.Sql

inductive Query where
  | table (schema : Option String) (name : String)
  | file (path : String)
  | stream (topic : String)
  /-- All rows of the inputs. -/
  | all (inputs : List String)
  | filter (inputs : List String) (condition : String)
  | aggregate (inputs : List String) (groupBy aggregates : List String)
      (condition : Option String)
  /-- A query with places for the inputs. -/
  | custom (inputs : List String) (text : String)
deriving DecidableEq

/-- The inputs as one relation. -/
def relation : List String → String
  | [single] => single
  | many => "(" ++ " UNION ALL ".intercalate (many.map fun name => "SELECT * FROM " ++ name) ++ ")"

/-- The inputs where a statement reads from them under an alias. -/
def aliased (name : String) (inputs : List String) : String := relation inputs ++ " AS " ++ name

/-- The inputs where a statement reads from them; one input needs no alias. -/
def combined (inputs : List String) : String :=
  if inputs.length = 1 then relation inputs else aliased "input" inputs

/-- The place of an input in a query: an empty label stands for all of them. -/
def place (label : String) : String := "\x7b\x7binput" ++ label ++ "\x7d\x7d"

/-- Fills the numbered places from the last input to the first. -/
def fillNumbered : List (Nat × String) → String → String
  | [], query => query
  | (i, name) :: inputs, query =>
    Text.replaceAll (place ("_" ++ toString (i + 1))) name (fillNumbered inputs query)

/-- A query without blanks around it and without semicolons at its end. -/
def bare (query : String) : String :=
  let trimmed := Text.trimChars query.toList
  String.ofList (Text.dropEndWhile Text.isBlankChar (Text.dropEndWhile (· = ';') trimmed))

/-- Fills the places of a query. -/
def fillPlaces (query : String) (inputs : List String) : String :=
  let numbered := (List.range inputs.length).zip inputs
  Text.replaceAll (place "") (combined inputs) (fillNumbered numbered (bare query))

namespace Query

def render : Query → String
  | table schema name => "SELECT * FROM " ++ tableName schema name
  | file path => "SELECT * FROM " ++ quoteText path
  | stream topic => "SELECT * FROM " ++ quoteName topic
  | all inputs => "SELECT * FROM " ++ combined inputs
  | filter inputs condition => "SELECT * FROM " ++ combined inputs ++ " WHERE " ++ condition
  | aggregate inputs groupBy aggregates condition =>
    "SELECT " ++ ", ".intercalate (groupBy ++ aggregates) ++ " FROM " ++ combined inputs ++
      (match condition with
        | some condition => " WHERE " ++ condition
        | none => "") ++
      (if groupBy.isEmpty then "" else " GROUP BY " ++ ", ".intercalate groupBy)
  | custom inputs text => fillPlaces text inputs

/-- The query of a source. -/
def ofSource : SourceSettings → Query
  | .table _ schema name => table schema name
  | .file path _ => file path
  | .stream _ topic => stream topic

/-- The query of a transform over its inputs. -/
def ofTransform (inputs : List String) : TransformSettings → Query
  | .filter condition => filter inputs condition
  | .aggregate groupBy aggregates condition => aggregate inputs groupBy aggregates condition
  | .query text => custom inputs text

end Query

end Etl.Sql
