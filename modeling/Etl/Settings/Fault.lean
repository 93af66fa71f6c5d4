import Etl.Catalog.FieldSpec
import Etl.Settings.Choice

/-!
Why a configured value cannot be used: it does not fit its field, or the settings that the node
needs cannot be made from it.
-/

namespace Etl

inductive ConfigCause where
  | misfit (m : Misfit)
  | required
  | unknownName (u : UnknownName)
  | needsExpression (rule : QualityRule)
  | outsidePercent (threshold : Double)
  | needsKeys (strategy : LoadStrategy)
  /-- A transform type none of whose fields can be turned into a query. -/
  | nothingToRender (typeId : String)
deriving DecidableEq

namespace ConfigCause

def message : ConfigCause → String
  | misfit m => m.message
  | required => "value is required"
  | unknownName u => u.message
  | needsExpression rule => "rule '" ++ rule.name ++ "' requires an expression"
  | outsidePercent threshold => threshold.plain ++ " is outside 0..=100"
  | needsKeys strategy => "load strategy '" ++ strategy.name ++ "' requires key columns"
  | nothingToRender typeId =>
    "transform type '" ++ typeId ++ "' has no condition, aggregates or query to render"

end ConfigCause

/-- A field and what is wrong with its value. -/
structure ConfigFault where
  field : String
  cause : ConfigCause
deriving DecidableEq

end Etl
