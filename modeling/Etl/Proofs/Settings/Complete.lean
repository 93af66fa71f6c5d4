import Mathlib.Algebra.Order.Field.Rat
import Mathlib.Tactic.Linarith
import Mathlib.Tactic.Positivity
import Etl.Proofs.Settings
import Etl.Proofs.Text

/-!
Complete settings. Whatever a node is configured with and whatever its type declares, settings that
can be made have all that a statement needs: each text that must be given is there, none has blanks
around it, and lists that are needed have entries.
-/

namespace Etl

namespace Double

/-- The number as a fraction. -/
def value (d : Double) : ℚ := (if d.negative then -1 else 1) * (d.numerator / denominator)

theorem denominator_pos : 0 < denominator := by decide +kernel

theorem numerator_eq_zero {d : Double} : d.numerator = 0 ↔ d.ordinal = 0 := by
  have power : 0 < Nat.pow 2 (shift d.ordinal) := Nat.pow_pos Nat.two_pos
  rw [numerator, Nat.mul_eq_zero, or_iff_left power.ne', significand]
  have binade : 0 < Double.binade := by decide
  split <;> omega

theorem isWithin_iff {d : Double} {upper : Nat} :
    d.isWithin upper ↔ 0 ≤ d.value ∧ d.value ≤ upper := by
  have positive := denominator_pos
  rw [isWithin, Bool.and_eq_true, decide_eq_true_eq, value]
  -- Which unit the value is counted in does not matter, only that there is one.
  generalize denominator = unit at *
  have scale : (0 : ℚ) < unit := Nat.cast_pos.mpr positive
  have size : (0 : ℚ) ≤ d.numerator / unit := by positivity
  have bound : d.numerator ≤ upper * unit ↔ (d.numerator / unit : ℚ) ≤ upper := by
    rw [div_le_iff₀ scale]
    exact_mod_cast Iff.rfl
  have zero : (d.numerator / unit : ℚ) = 0 ↔ d.ordinal = 0 := by
    rw [div_eq_zero_iff, or_iff_left scale.ne', Nat.cast_eq_zero, numerator_eq_zero]
  rw [bound]
  cases d.negative with
  | false => simp [size]
  | true =>
      rw [if_pos rfl, Bool.not_true, Bool.false_or, beq_iff_eq, ← zero]
      constructor
      · rintro ⟨none, _⟩
        simp [none]
      · rintro ⟨low, _⟩
        have none : (d.numerator / unit : ℚ) = 0 := by linarith
        simp [none]

end Double

namespace Settings

open Text Results

namespace Source

variable {s : Source} {field text : String}

theorem neat_of_text? (given : s.text? field = .ok (some text)) : Neat text := by
  obtain ⟨raw, _, some, rfl⟩ := text?_eq_ok_some.mp given
  exact neat_trim some

theorem neat_of_text (given : s.text field = .ok text) : Neat text :=
  neat_of_text? (text_eq_ok.mp given)

/-- A text that may be left out is empty or neat. -/
theorem neat_of_getD {given : Option String} (asked : s.text? field = .ok given)
    (some : given.getD "" ≠ "") : Neat (given.getD "") := by
  cases given with
  | none => exact absurd rfl some
  | some text => exact neat_of_text? asked

theorem list_eq_ok {items : List String} :
    s.list field = .ok items ↔
      (s.node.effective? s.type field = none ∧ items = []) ∨
        ∃ raw, s.node.effective? s.type field = some (.list raw) ∧
          (raw.map trim).filter (· ≠ "") = items := by
  rw [list]
  cases s.node.effective? s.type field with
  | none => simp [eq_comm]
  | some value => cases value <;> simp [ConfigValue.list?]

theorem neat_of_mem_list {items : List String} (listed : s.list field = .ok items)
    (member : text ∈ items) : Neat text := by
  obtain ⟨_, rfl⟩ | ⟨raw, _, rfl⟩ := list_eq_ok.mp listed
  · cases member
  · obtain ⟨member, some⟩ := List.mem_filter.mp member
    obtain ⟨entry, _, rfl⟩ := List.mem_map.mp member
    exact ⟨by simpa using some, trim_trim entry⟩

/-- A list that can be read has entries exactly if its field has a value. -/
theorem has_iff_of_list {items : List String} (listed : s.list field = .ok items) :
    s.has field ↔ items ≠ [] := by
  rw [has, Node.hasValue]
  obtain ⟨absent, rfl⟩ | ⟨raw, given, rfl⟩ := list_eq_ok.mp listed
  · simp [absent]
  · rw [given]
    simp [ConfigValue.isBlank, trim_eq_empty]

end Source

theorem threshold_eq_ok {s : Source} {percent : Double} :
    threshold s = .ok percent ↔ percent.isWithin 100 ∧
      ((s.node.effective? s.type "threshold" = none ∧ Double.ofInt 100 = percent) ∨
        ∃ n, s.node.effective? s.type "threshold" = some (.number n) ∧ n.toDouble = percent) := by
  have bounded (value : Double) :
      (if value.isWithin 100 then pure value
        else Except.error (ConfigFault.mk "threshold" (.outsidePercent value))) = .ok percent ↔
          percent.isWithin 100 ∧ value = percent := by
    split
    next inside => exact pure_eq_ok.trans ⟨fun same => ⟨same ▸ inside, same⟩, And.right⟩
    next outside => exact iff_of_false nofun fun both => outside (both.2 ▸ both.1)
  unfold threshold
  cases s.node.effective? s.type "threshold" with
  | none => simpa using bounded (Double.ofInt 100)
  | some value =>
      cases value with
      | number n => simpa [ConfigValue.number?] using bounded n.toDouble
      | _ => exact iff_of_false nofun (by simp)

end Settings

def SourceSettings.Complete : SourceSettings → Prop
  | .table connection schema name =>
      (connection ≠ "" → Text.Neat connection) ∧ (∀ s, schema = some s → Text.Neat s) ∧
        Text.Neat name
  | .file path _ => Text.Neat path
  | .stream connection topic => (connection ≠ "" → Text.Neat connection) ∧ Text.Neat topic

/-- An aggregate selects something. -/
def TransformSettings.Complete : TransformSettings → Prop
  | .filter condition => Text.Neat condition
  | .aggregate groupBy aggregates condition =>
      groupBy ++ aggregates ≠ [] ∧ (∀ s ∈ groupBy ++ aggregates, Text.Neat s) ∧
        ∀ s, condition = some s → Text.Neat s
  | .query text => Text.Neat text

structure CheckSettings.Complete (t : CheckSettings) : Prop where
  column : Text.Neat t.column
  expression : ∀ s, t.expression = some s → Text.Neat s
  needed : t.rule.needsExpression → t.expression ≠ none
  threshold : 0 ≤ t.threshold.value ∧ t.threshold.value ≤ 100

structure TargetSettings.Complete (t : TargetSettings) : Prop where
  connection : t.connection ≠ "" → Text.Neat t.connection
  schema : ∀ s, t.schema = some s → Text.Neat s
  table : Text.Neat t.table
  keys : t.strategy.needsKeys → t.keyColumns ≠ []
  keyColumns : ∀ s ∈ t.keyColumns, Text.Neat s
  columns : ∀ s ∈ t.columns, Text.Neat s

/-- Every text that has to be given is given, every text and every entry is trimmed, and lists are
not empty where an entry is needed. A connection that is left out is the empty text. -/
def Settings.Complete : Settings → Prop
  | source s => s.Complete
  | transform t => t.Complete
  | check c => c.Complete
  | target t => t.Complete

namespace Settings

open Text

variable {s : Source}

theorem ofSource_complete {settings : SourceSettings} (made : ofSource s = .ok settings) :
    settings.Complete := by
  have made := ofSource_eq_ok.mp made
  cases settings with
  | table connection schema table =>
      obtain ⟨_, _, given, via, inSchema, table, rfl⟩ := made
      refine ⟨Source.neat_of_getD via, ?_, Source.neat_of_text table⟩
      rintro text rfl
      exact Source.neat_of_text? inSchema
  | file path format =>
      obtain ⟨_, path, _⟩ := made
      exact Source.neat_of_text path
  | stream connection topic =>
      obtain ⟨_, _, given, via, topic, rfl⟩ := made
      exact ⟨Source.neat_of_getD via, Source.neat_of_text topic⟩

theorem ofTransform_complete {settings : TransformSettings}
    (made : ofTransform s = .ok settings) : settings.Complete := by
  have made := ofTransform_eq_ok.mp made
  cases settings with
  | filter condition =>
      obtain ⟨_, _, _, _, condition⟩ := made
      exact Source.neat_of_text condition
  | aggregate groupBy aggregates condition =>
      obtain ⟨_, some, groups, sums, condition⟩ := made
      refine ⟨?_, ?_, ?_⟩
      · -- The field that makes the transform an aggregate is a list with entries.
        rw [Source.has_iff_of_list groups, Source.has_iff_of_list sums] at some
        rcases some with some | some <;> simp [some]
      · intro text member
        rcases List.mem_append.mp member with member | member
        · exact Source.neat_of_mem_list groups member
        · exact Source.neat_of_mem_list sums member
      · rintro text rfl
        exact Source.neat_of_text? condition
  | query text =>
      obtain ⟨_, text⟩ := made
      exact Source.neat_of_text text

theorem ofCheck_complete {t : CheckSettings} (made : ofCheck s = .ok t) : t.Complete := by
  obtain ⟨_, _, expression, needed, within, column, _⟩ := ofCheck_eq_ok made
  refine ⟨Source.neat_of_text column, fun text some => ?_, needed,
    Double.isWithin_iff.mp (threshold_eq_ok.mp within).1⟩
  rw [some] at expression
  exact Source.neat_of_text? expression

theorem ofTarget_complete {t : TargetSettings} (made : ofTarget s = .ok t) : t.Complete := by
  obtain ⟨_, _, _, _, keys, needed, via, connection, schema, table, columns⟩ := ofTarget_eq_ok made
  refine ⟨?_, fun text some => ?_, Source.neat_of_text table, needed,
    fun _ => Source.neat_of_mem_list keys, fun _ => Source.neat_of_mem_list columns⟩
  · rw [← connection]
    exact Source.neat_of_getD via
  · rw [some] at schema
    exact Source.neat_of_text? schema

/-- Settings that can be made are complete, for every node and every type. -/
theorem complete_of_project {node : Node} {type : NodeType} {settings : Settings}
    (projected : project node type = .ok settings) : settings.Complete := by
  obtain ⟨_, made⟩ := project_eq_ok projected
  cases settings with
  | source t => exact ofSource_complete made
  | transform t => exact ofTransform_complete made
  | check t => exact ofCheck_complete made
  | target t => exact ofTarget_complete made

end Settings

end Etl
