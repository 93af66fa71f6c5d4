import Etl.Proofs.Results
import Etl.Settings.Project

/-!
Where settings come from. A text in the settings is the trimmed text of one field, which the node or
its type gives.
-/

namespace Etl.Settings

open Results

namespace Source

variable {s : Source} {field text : String}

theorem text?_eq_ok_some :
    s.text? field = .ok (some text) ↔
      ∃ raw, s.node.effective? s.type field = some (.text raw) ∧ Text.isBlank raw = false ∧
        Text.trim raw = text := by
  simp only [text?]
  cases s.node.effective? s.type field with
  | none => simp
  | some value =>
      cases value with
      | text raw =>
          cases blank : Text.isBlank raw <;> simp [ConfigValue.isBlank, ConfigValue.text?, blank]
      | flag _ => simp [ConfigValue.isBlank, ConfigValue.text?]
      | number _ => simp [ConfigValue.isBlank, ConfigValue.text?]
      | list items =>
          cases blank : items.all Text.isBlank <;>
            simp [ConfigValue.isBlank, ConfigValue.text?, blank]

theorem text_eq_ok : s.text field = .ok text ↔ s.text? field = .ok (some text) := by
  simp only [Source.text, bind_eq_ok]
  constructor
  · rintro ⟨found, given, taken⟩
    cases found with
    | none => cases taken
    | some other =>
        obtain rfl := Except.ok.inj taken
        exact given
  · exact fun given => ⟨some text, given, rfl⟩

/-- Both nodes give the field the same value, by themselves or by their types. -/
def Agrees (s t : Source) (field : String) : Prop :=
  s.node.effective? s.type field = t.node.effective? t.type field

namespace Agrees

variable {s t : Source} {field : String} (same : s.Agrees t field)

include same

theorem has_eq : s.has field = t.has field := by
  rw [Source.has, Source.has, Node.hasValue, Node.hasValue, same]

theorem text?_eq : s.text? field = t.text? field := by
  rw [Source.text?, Source.text?, same]

theorem text_eq : s.text field = t.text field := by
  rw [Source.text, Source.text, same.text?_eq]

theorem list_eq : s.list field = t.list field := by
  rw [Source.list, Source.list, same]

theorem choice?_eq {α : Type} (parse : String → Except UnknownName α) :
    s.choice? parse field = t.choice? parse field := by
  rw [Source.choice?, Source.choice?, same.text?_eq]

end Agrees

end Source

variable {s : Source}

/-- A source is a file, a stream or a table, by the first of its fields that is given. -/
theorem ofSource_eq_ok {settings : SourceSettings} :
    ofSource s = .ok settings ↔
      match settings with
      | .file path format => s.has "path" ∧ s.text "path" = .ok path ∧
          ∃ chosen, s.choice? FileFormat.parse "format" = .ok chosen ∧ chosen.getD .csv = format
      | .stream connection topic => s.has "path" = false ∧ s.has "topic" ∧
          ∃ given, s.text? "connection" = .ok given ∧ s.text "topic" = .ok topic ∧
            given.getD "" = connection
      | .table connection schema table => s.has "path" = false ∧ s.has "topic" = false ∧
          ∃ given, s.text? "connection" = .ok given ∧ s.text? "schema" = .ok schema ∧
            s.text "table" = .ok table ∧ given.getD "" = connection := by
  unfold ofSource
  split
  next isFile =>
    simp only [bind_eq_ok, pure_eq_ok]
    cases settings <;> simp [isFile]
  next noFile =>
    split
    next isStream =>
      simp only [bind_eq_ok, pure_eq_ok]
      cases settings <;> simp [noFile, isStream]
    next noStream =>
      simp only [bind_eq_ok, pure_eq_ok]
      cases settings <;> simp [noFile, noStream]

/-- A transform is a query, a grouping or a filter, by the first of its fields that is given. -/
theorem ofTransform_eq_ok {settings : TransformSettings} :
    ofTransform s = .ok settings ↔
      match settings with
      | .query text => s.has "query" ∧ s.text "query" = .ok text
      | .aggregate groupBy aggregates condition => s.has "query" = false ∧
          (s.has "aggregates" ∨ s.has "group_by") ∧ s.list "group_by" = .ok groupBy ∧
            s.list "aggregates" = .ok aggregates ∧ s.text? "condition" = .ok condition
      | .filter condition => s.has "query" = false ∧ s.has "aggregates" = false ∧
          s.has "group_by" = false ∧ s.has "condition" ∧ s.text "condition" = .ok condition := by
  unfold ofTransform
  split
  next isQuery =>
    simp only [bind_eq_ok, pure_eq_ok]
    cases settings <;> simp [isQuery]
  next noQuery =>
    split
    next groups =>
      simp only [bind_eq_ok, pure_eq_ok]
      have groups : s.has "aggregates" = true ∨ s.has "group_by" = true := by simpa using groups
      cases settings with
      | query => simp [noQuery]
      | aggregate => simp [noQuery, groups]
      | filter => rcases groups with groups | groups <;> simp [groups]
    next whole =>
      simp only [Bool.or_eq_true, not_or, Bool.not_eq_true] at whole
      split
      next isFilter =>
        simp only [bind_eq_ok, pure_eq_ok]
        cases settings <;> simp [noQuery, whole, isFilter]
      next noFilter => cases settings <;> simp [noQuery, whole, noFilter]

/-- Each part of a check is the reading of its own field. -/
theorem ofCheck_eq_ok {t : CheckSettings} (made : ofCheck s = .ok t) :
    ∃ mode, s.choice? QualityRule.parse "rule" = .ok (some t.rule) ∧
      s.text? "expression" = .ok t.expression ∧
        (t.rule.needsExpression → t.expression ≠ none) ∧ threshold s = .ok t.threshold ∧
          s.text "column" = .ok t.column ∧ s.choice? QualityMode.parse "mode" = .ok mode ∧
            mode.getD .warn = t.mode := by
  obtain ⟨chosen, asked, made⟩ := bind_eq_ok.mp made
  cases chosen with
  | none => cases made
  | some rule =>
      obtain ⟨other, same, made⟩ := bind_eq_ok.mp made
      obtain rfl := pure_eq_ok.mp same
      obtain ⟨expression, read, made⟩ := bind_eq_ok.mp made
      split at made
      next => cases made
      next enough =>
        obtain ⟨percent, within, made⟩ := bind_eq_ok.mp made
        obtain ⟨column, given, made⟩ := bind_eq_ok.mp made
        obtain ⟨mode, set, made⟩ := bind_eq_ok.mp made
        cases made
        refine ⟨mode, asked, read, ?_, within, given, set, rfl⟩
        simpa using enough

/-- Each part of a target is the reading of its own field. -/
theorem ofTarget_eq_ok {t : TargetSettings} (made : ofTarget s = .ok t) :
    ∃ strategy connection, s.choice? LoadStrategy.parse "load_strategy" = .ok strategy ∧
      strategy.getD .append = t.strategy ∧ s.list "key_columns" = .ok t.keyColumns ∧
        (t.strategy.needsKeys → t.keyColumns ≠ []) ∧ s.text? "connection" = .ok connection ∧
          connection.getD "" = t.connection ∧ s.text? "schema" = .ok t.schema ∧
            s.text "table" = .ok t.table ∧ s.list "columns" = .ok t.columns := by
  obtain ⟨strategy, chosen, made⟩ := bind_eq_ok.mp made
  obtain ⟨keyColumns, keys, made⟩ := bind_eq_ok.mp made
  split at made
  next => cases made
  next enough =>
    obtain ⟨connection, via, made⟩ := bind_eq_ok.mp made
    obtain ⟨schema, inSchema, made⟩ := bind_eq_ok.mp made
    obtain ⟨table, given, made⟩ := bind_eq_ok.mp made
    obtain ⟨columns, listed, made⟩ := bind_eq_ok.mp made
    cases made
    refine ⟨strategy, connection, chosen, rfl, keys, ?_, via, rfl, inSchema, given, listed⟩
    simpa using enough

theorem table_of_ofTarget {t : TargetSettings} (made : ofTarget s = .ok t) :
    s.text "table" = .ok t.table := by
  obtain ⟨_, _, _, _, _, _, _, _, _, given, _⟩ := ofTarget_eq_ok made
  exact given

/-- Targets that agree on all fields but the connection differ in nothing else. -/
theorem ofTarget_agrees {s' : Source} {t t' : TargetSettings}
    (same : ∀ field, field ≠ "connection" → s.Agrees s' field) (made : ofTarget s = .ok t)
    (made' : ofTarget s' = .ok t') : t' = { t with connection := t'.connection } := by
  obtain ⟨_, _, chosen, set, keys, -, -, -, inSchema, given, listed⟩ := ofTarget_eq_ok made
  obtain ⟨_, _, chosen', set', keys', -, -, -, inSchema', given', listed'⟩ := ofTarget_eq_ok made'
  rw [(same "load_strategy" (by decide)).choice?_eq, chosen'] at chosen
  rw [(same "key_columns" (by decide)).list_eq, keys'] at keys
  rw [(same "schema" (by decide)).text?_eq, inSchema'] at inSchema
  rw [(same "table" (by decide)).text_eq, given'] at given
  rw [(same "columns" (by decide)).list_eq, listed'] at listed
  cases t
  cases t'
  simp_all

/-- A transform reads no connection. -/
theorem ofTransform_agrees {a b : Node} {type : NodeType}
    (same : ∀ field, field ≠ "connection" → Source.Agrees ⟨a, type⟩ ⟨b, type⟩ field) :
    ofTransform ⟨a, type⟩ = ofTransform ⟨b, type⟩ := by
  have query := same "query" (by decide)
  have groupBy := same "group_by" (by decide)
  have aggregates := same "aggregates" (by decide)
  have condition := same "condition" (by decide)
  unfold ofTransform
  rw [query.has_eq, query.text_eq, aggregates.has_eq, aggregates.list_eq, groupBy.has_eq,
    groupBy.list_eq, condition.has_eq, condition.text?_eq, condition.text_eq]

/-- Settings are made by the reading that belongs to the category of the type. -/
theorem project_eq_ok {node : Node} {type : NodeType} {settings : Settings}
    (projected : project node type = .ok settings) :
    settings.category = type.category ∧
      match settings with
      | .source t => ofSource ⟨node, type⟩ = .ok t
      | .transform t => ofTransform ⟨node, type⟩ = .ok t
      | .check t => ofCheck ⟨node, type⟩ = .ok t
      | .target t => ofTarget ⟨node, type⟩ = .ok t := by
  unfold project at projected
  split at projected
  all_goals
    next category =>
      obtain ⟨_, made, rfl⟩ := map_eq_ok.mp projected
      exact ⟨category.symm, made⟩

end Etl.Settings
