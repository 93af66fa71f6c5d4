import Etl.Catalog.Category
import Etl.Decimal.Double
import Etl.Settings.Choice

/-!
Typed settings: what a node's configuration means, by category.
-/

namespace Etl

inductive SourceSettings where
  | table (connection : String) (schema : Option String) (table : String)
  | file (path : String) (format : FileFormat)
  | stream (connection : String) (topic : String)
deriving DecidableEq

inductive TransformSettings where
  | filter (condition : String)
  | aggregate (groupBy aggregates : List String) (condition : Option String)
  | query (text : String)
deriving DecidableEq

structure CheckSettings where
  rule : QualityRule
  column : String
  expression : Option String
  /-- The least percentage of rows that must pass. -/
  threshold : Double
  mode : QualityMode
deriving DecidableEq

structure TargetSettings where
  connection : String
  schema : Option String
  table : String
  strategy : LoadStrategy
  keyColumns : List String
  columns : List String
deriving DecidableEq

inductive Settings where
  | source (s : SourceSettings)
  | transform (s : TransformSettings)
  | check (s : CheckSettings)
  | target (s : TargetSettings)
deriving DecidableEq

def Settings.category : Settings → Category
  | source _ => .source
  | transform _ => .transform
  | check _ => .qualityCheck
  | target _ => .target

end Etl
