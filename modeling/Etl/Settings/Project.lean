import Etl.Pipeline.Node
import Etl.Settings.Basic

/-!
From a configuration to settings. Texts are trimmed, blank values count as absent, and the settings
are complete enough to be turned into a query: what is needed and missing is a fault.
-/

namespace Etl.Settings

/-- A node with its type, whose defaults fill the gaps. -/
structure Source where
  node : Node
  type : NodeType

namespace Source

variable (s : Source)

def has (field : String) : Bool := s.node.hasValue s.type field

/-- A text, if one is given. -/
def text? (field : String) : Except ConfigFault (Option String) :=
  match s.node.effective? s.type field with
  | none => .ok none
  | some value =>
    if value.isBlank then .ok none
    else
      match value.text? with
      | some text => .ok (some (Text.trim text))
      | none => .error ⟨field, .misfit (.wrongKind .text value.kind)⟩

/-- A text that must be given. -/
def text (field : String) : Except ConfigFault String := do
  match ← s.text? field with
  | some text => return text
  | none => .error ⟨field, .required⟩

/-- The entries of a list that are not blank. -/
def list (field : String) : Except ConfigFault (List String) :=
  match s.node.effective? s.type field with
  | none => .ok []
  | some value =>
    match value.list? with
    | some items => .ok ((items.map Text.trim).filter (· ≠ ""))
    | none => .error ⟨field, .misfit (.wrongKind .list value.kind)⟩

/-- A choice by name, if one is given. -/
def choice? {α : Type} (parse : String → Except UnknownName α) (field : String) :
    Except ConfigFault (Option α) := do
  match ← s.text? field with
  | none => return none
  | some text =>
    match parse text with
    | .ok a => return some a
    | .error u => .error ⟨field, .unknownName u⟩

end Source

/-- A path makes a file, a topic a stream, and anything else has to name a table. -/
def ofSource (s : Source) : Except ConfigFault SourceSettings := do
  if s.has "path" then
    return .file (← s.text "path") ((← s.choice? FileFormat.parse "format").getD .csv)
  else if s.has "topic" then
    return .stream ((← s.text? "connection").getD "") (← s.text "topic")
  else
    return .table ((← s.text? "connection").getD "") (← s.text? "schema") (← s.text "table")

/-- A query goes before grouping, and grouping before a mere condition. -/
def ofTransform (s : Source) : Except ConfigFault TransformSettings := do
  if s.has "query" then
    return .query (← s.text "query")
  else if s.has "aggregates" || s.has "group_by" then
    return .aggregate (← s.list "group_by") (← s.list "aggregates") (← s.text? "condition")
  else if s.has "condition" then
    return .filter (← s.text "condition")
  else
    .error ⟨"query", .nothingToRender s.type.id⟩

/-- The percentage that must pass, all rows where nothing is said. -/
def threshold (s : Source) : Except ConfigFault Double := do
  let value ← match s.node.effective? s.type "threshold" with
    | none => pure (Double.ofInt 100)
    | some value =>
      match value.number? with
      | some d => pure d
      | none => .error ⟨"threshold", .misfit (.wrongKind .number value.kind)⟩
  if value.isWithin 100 then return value else .error ⟨"threshold", .outsidePercent value⟩

def ofCheck (s : Source) : Except ConfigFault CheckSettings := do
  let rule ← match ← s.choice? QualityRule.parse "rule" with
    | some rule => pure rule
    | none => .error ⟨"rule", .required⟩
  let expression ← s.text? "expression"
  if rule.needsExpression && expression.isNone then
    .error ⟨"expression", .needsExpression rule⟩
  let threshold ← threshold s
  let column ← s.text "column"
  let mode := (← s.choice? QualityMode.parse "mode").getD .warn
  return { rule, column, expression, threshold, mode }

def ofTarget (s : Source) : Except ConfigFault TargetSettings := do
  let strategy := (← s.choice? LoadStrategy.parse "load_strategy").getD .append
  let keyColumns ← s.list "key_columns"
  if strategy.needsKeys && keyColumns.isEmpty then
    .error ⟨"key_columns", .needsKeys strategy⟩
  let connection := (← s.text? "connection").getD ""
  let schema ← s.text? "schema"
  let table ← s.text "table"
  let columns ← s.list "columns"
  return { connection, schema, table, strategy, keyColumns, columns }

/-- The settings of a node, by the category of its type. -/
def project (node : Node) (type : NodeType) : Except ConfigFault Settings :=
  let s : Source := ⟨node, type⟩
  match type.category with
  | .source => source <$> ofSource s
  | .transform => transform <$> ofTransform s
  | .qualityCheck => check <$> ofCheck s
  | .target => target <$> ofTarget s

end Etl.Settings
