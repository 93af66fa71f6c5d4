import Etl.Catalog
import Etl.Pipeline.Order
import Etl.Settings.Project
import Etl.Sql.Relation
import Etl.Sql.Write

/-!
The SQL script of a pipeline: one block a node, first the views in dependency order and then the
writes in the same order. Free text of the pipeline stands in comments alone, each on one line.
-/

namespace Etl.Sql

inductive Statement where
  | view (name : String) (query : Query)
  | write (w : Write)
deriving DecidableEq

def Statement.isView : Statement → Bool
  | view .. => true
  | write _ => false

def Statement.render : Statement → String
  | view name query =>
    "CREATE OR REPLACE TEMPORARY VIEW " ++ name ++ " AS\n" ++ query.render ++ ";\n"
  | write w => w.render

/-- The statement of one node with the comments before it. -/
structure Block where
  node : NodeId
  comments : List String
  statement : Statement
deriving DecidableEq

/-- A comment line. Line breaks inside the text become blanks. -/
def comment (text : String) : String :=
  "-- " ++ String.ofList (text.toList.map fun c => if c = '\r' ∨ c = '\n' then ' ' else c) ++ "\n"

def Block.render (b : Block) : String :=
  String.join (b.comments.map comment) ++ b.statement.render

structure Script where
  comments : List String
  blocks : List Block
deriving DecidableEq

/-- The views in order, and then the writes in order. -/
def Script.sorted (s : Script) : List Block :=
  s.blocks.filter (·.statement.isView) ++ s.blocks.filter fun b => !b.statement.isView

def Script.render (s : Script) : String :=
  String.join (s.comments.map comment) ++ String.join (s.sorted.map fun b => "\n" ++ b.render)

/-- The share of rows that pass a check, as the sum or count over all rows. -/
def passCount (check : CheckSettings) : String :=
  match check.rule with
  | .completeness => "COUNT(" ++ check.column ++ ")"
  | .uniqueness => "COUNT(DISTINCT " ++ check.column ++ ")"
  | .range | .referential | .format | .custom =>
    "SUM(CASE WHEN " ++ check.expression.getD "TRUE" ++ " THEN 1 ELSE 0 END)"

/-- What a check asserts and how it can be measured. -/
def checkComments (id : NodeId) (check : CheckSettings) (inputs : List String) : List String :=
  ["check " ++ id ++ ": " ++ check.rule.name ++ " on " ++ check.column ++ " must pass >= " ++
      check.threshold.plain ++ "% (mode: " ++ check.mode.name ++ ")",
   "metric: SELECT 100.0 * " ++ passCount check ++
      " / NULLIF(COUNT(*), 0) AS pass_rate FROM " ++ combined inputs ++ ";"]

/-- The block of a node with known settings. -/
def blockOf (node : Node) (name : String) (inputs : List String) : Settings → Block :=
  let title := node.id ++ ": " ++ node.displayName ++ " [" ++ node.type ++ "]"
  fun
  | .source s => ⟨node.id, [title], .view name (.ofSource s)⟩
  | .transform t => ⟨node.id, [title], .view name (.ofTransform inputs t)⟩
  | .check c => ⟨node.id, title :: checkComments node.id c inputs, .view name (.all inputs)⟩
  | .target t =>
    let via := if t.connection = "" then "" else " via " ++ t.connection
    ⟨node.id, [title ++ " " ++ t.strategy.name ++ via], .write ⟨t, inputs⟩⟩

/-- Plans the block of one node. -/
def planNode (p : Pipeline) (c : Catalog) (names : List (NodeId × String)) (id : NodeId) :
    Except Error Block := do
  let node ← p.requireNode id
  let type ← c.lookup node.type
  let settings ← (Settings.project node type).mapError (.invalidConfig node.id)
  let inputs := (p.predecessors id).filterMap fun source => names.lookup source
  return blockOf node ((names.lookup id).getD id) inputs settings

/-- Plans the script of a pipeline, without looking whether it should be deployed. -/
def plan (p : Pipeline) (c : Catalog) : Except Error Script := do
  let blocks ← (← p.order).mapM (planNode p c (relationNames p))
  return ⟨["Pipeline: " ++ p.name ++ " (" ++ p.id ++ ")",
    "Generated by pipewright. Do not edit."], blocks⟩

end Etl.Sql
