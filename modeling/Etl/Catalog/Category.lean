import Etl.Text.Name

/-!
The four roles a node can have in a pipeline.
-/

namespace Etl

inductive Category where
  | source
  | transform
  | target
  | qualityCheck
deriving DecidableEq, Repr

namespace Category

def name : Category → String
  | source => "source"
  | transform => "transform"
  | target => "target"
  | qualityCheck => "qualityCheck"

def all : List Category := [source, transform, target, qualityCheck]

/-- The names used in data. -/
def known : List (String × Category) := all.map fun c => (c.name, c)

/-- Reads a name as a person may write it: quality checks have two more spellings. -/
def parse (text : String) : Except UnknownName Category :=
  ofName "category"
    (known ++ [("quality-check", qualityCheck), ("quality_check", qualityCheck)]) text

end Category

end Etl
