import Etl.Sql.Query

/-!
Writes: how the rows of a target's inputs get into its table, by load strategy.
-/

namespace Etl.Sql

structure Write where
  target : TargetSettings
  inputs : List String
deriving DecidableEq

namespace Write

variable (w : Write)

def table : String := tableName w.target.schema w.target.table

/-- Adds all rows. -/
def insertion : String := "INSERT INTO " ++ w.table ++ "\nSELECT * FROM " ++ combined w.inputs

/-- The columns that a match updates. -/
def mergeUpdate : String :=
  if w.target.columns.isEmpty then "*"
  else ", ".intercalate (w.target.columns.map fun c => quoteName c ++ " = s." ++ quoteName c)

/-- The condition under which two rows match. -/
def mergeCondition : String :=
  " AND ".intercalate
    (w.target.keyColumns.map fun k => "t." ++ quoteName k ++ " = s." ++ quoteName k)

/-- Whether a conflicting row is left as it is. -/
def ignoresConflicts : Bool := w.target.strategy == .upsert && w.target.columns.isEmpty

/-- What happens to a conflicting row. -/
def conflictAction : String :=
  if w.ignoresConflicts then "DO NOTHING"
  else
    "DO UPDATE SET " ++ ", ".intercalate
      (w.target.columns.map fun c => quoteName c ++ " = EXCLUDED." ++ quoteName c)

/-- The statements with their final line break. -/
def render : String :=
  match w.target.strategy with
  | .append => w.insertion ++ ";\n"
  | .overwrite => "TRUNCATE TABLE " ++ w.table ++ ";\n" ++ w.insertion ++ ";\n"
  | .merge =>
    "MERGE INTO " ++ w.table ++ " AS t\nUSING " ++ aliased "s" w.inputs ++ "\nON " ++
      w.mergeCondition ++ "\nWHEN MATCHED THEN UPDATE SET " ++ w.mergeUpdate ++
      "\nWHEN NOT MATCHED THEN INSERT *;\n"
  | .upsert =>
    w.insertion ++ "\nON CONFLICT (" ++ ", ".intercalate (w.target.keyColumns.map quoteName) ++
      ") " ++ w.conflictAction ++ ";\n"

end Write

end Etl.Sql
