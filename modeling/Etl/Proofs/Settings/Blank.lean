import Etl.Proofs.Catalog.Sound
import Etl.Proofs.Settings.Complete
import Etl.Proofs.Settings.Reading
import Etl.Proofs.Validation.Findings

/-!
Blank values. Readings of a text take a blank value for none, and so does the question whether a
field has a value. But a blank value still stands before the default of its field, and readings of a
list and of a number do not look whether a value is blank. So leaving a blank value out can bring a
default into play, and can make settings out of a fault.
-/

namespace Etl

/-- The node without a value of its own for one field. -/
def Node.without (node : Node) (name : String) : Node :=
  { node with config := node.config.erase name }

/-- The type without a default for one field. -/
def NodeType.withoutDefault (type : NodeType) (name : String) : NodeType where
  id := type.id
  category := type.category
  displayName := type.displayName
  description := type.description
  fields := type.fields.map fun f => if f.name = name then { f with default := none } else f

/-- Whether settings of the category are made with this value as they are without any. Where a choice
is left open it may be the name of the choice that is then made, and where a number is it may be that
number. -/
structure Category.Idle (category : Category) (name : String) (value : ConfigValue) : Prop where
  text : name ∈ category.textFields → value.isBlank
  choice : ∀ other, (name, other) ∈ category.choiceFields →
    value.isBlank ∨ ∃ raw, value = .text raw ∧ Text.trim raw = other
  list : name ∈ category.listFields → value.isBlank ∧ ∃ items, value = .list items
  number : name ∈ category.numberFields → ∃ n, value = .number n ∧ n.toDouble = Double.ofInt 100

/-- The lists that settings hold. -/
def Settings.listFields : Settings → List String
  | transform (.aggregate ..) => ["group_by", "aggregates"]
  | target _ => ["key_columns", "columns"]
  | _ => []

/-- Whether settings can come from a blank value. -/
def Settings.Takes (settings : Settings) (name : String) (value : ConfigValue) : Prop :=
  (name ∈ settings.listFields → ∃ items, value = .list items) ∧
    name ∉ settings.category.numberFields

theorem Settings.listFields_subset (settings : Settings) :
    settings.listFields ⊆ settings.category.listFields := by
  cases settings with
  | transform t => cases t <;> simp [listFields, category, Category.listFields]
  | _ => simp [listFields, category, Category.listFields]

theorem NodeType.default_withoutDefault (type : NodeType) (name other : String) :
    ((type.withoutDefault name).field? other).bind (·.default) =
      if other = name then none else (type.field? other).bind (·.default) := by
  have mapped : (type.withoutDefault name).field? other =
      (type.field? other).map fun f => if f.name = name then { f with default := none } else f := by
    rw [field?, field?, withoutDefault, List.find?_map]
    congr 2
    funext f
    simp only [Function.comp_apply]
    split <;> rfl
  rw [mapped]
  cases found : type.field? other with
  | none => simp
  | some f =>
      have named : f.name = other := by simpa using List.find?_some found
      by_cases same : other = name <;> simp [named, same]

namespace Node

variable (node : Node) (type : NodeType) (name : String)

theorem effective?_without (other : String) :
    (node.without name).effective? type other =
      if other = name then (type.field? name).bind (·.default) else node.effective? type other := by
  unfold effective?
  rw [without, SortedMap.get?_erase]
  by_cases same : other = name
  · rw [if_pos same, if_pos same, same]
  · rw [if_neg same, if_neg same]

theorem effective?_withoutDefault (other : String) :
    (node.without name).effective? (type.withoutDefault name) other =
      if other = name then none else node.effective? type other := by
  rw [effective?_without, NodeType.default_withoutDefault, if_pos rfl]
  unfold effective?
  by_cases same : other = name
  · rw [if_pos same, if_pos same]
  · rw [if_neg same, if_neg same, NodeType.default_withoutDefault, if_neg same]

theorem hasValue_without {field : FieldSpec} (declared : type.field? name = some field)
    (other : String) : (node.without name).hasValue type other =
      if other = name then field.default.any fun d => !d.isBlank else node.hasValue type other := by
  rw [hasValue, effective?_without, declared, Option.bind_some]
  by_cases same : other = name
  · rw [if_pos same, if_pos same]
    cases field.default <;> rfl
  · rw [if_neg same, if_neg same]
    rfl

variable {node type name} {value : ConfigValue} (given : node.config.get? name = some value)

include given

theorem effective?_of_get? : node.effective? type name = some value := by
  rw [effective?, given]

theorem hasValue_of_blank (blank : value.isBlank) : node.hasValue type name = false := by
  rw [hasValue, effective?_of_get? given]
  simp [blank]

end Node

namespace Settings

open Results

variable {s t : Source}

namespace Source

variable {s : Source} {category : Category} {name : String}

theorem text?_of_not_has (vacant : s.has name = false) : s.text? name = .ok none := by
  rw [has, Node.hasValue] at vacant
  rw [text?]
  cases given : s.node.effective? s.type name with
  | none => rfl
  | some value =>
      rw [given, Bool.not_eq_false'] at vacant
      simp [vacant]

/-- A value of the field, if there is one, is idle. -/
def IdleAt (s : Source) (category : Category) (name : String) : Prop :=
  ∀ value, s.node.effective? s.type name = some value → category.Idle name value

namespace IdleAt

variable (idle : s.IdleAt category name)

include idle

theorem has_eq (read : name ∈ category.textFields ++ category.listFields) : s.has name = false := by
  rw [Source.has, Node.hasValue]
  cases given : s.node.effective? s.type name with
  | none => rfl
  | some value =>
      rcases List.mem_append.mp read with read | read
      · simp [(idle value given).text read]
      · simp [((idle value given).list read).1]

theorem text?_eq (read : name ∈ category.textFields) : s.text? name = .ok none :=
  text?_of_not_has (idle.has_eq (List.mem_append_left _ read))

theorem textOr_eq {other : String} (read : (name, other) ∈ category.choiceFields) :
    s.textOr name other = .ok other := by
  rw [textOr]
  by_cases vacant : s.has name = false
  · rw [text?_of_not_has vacant]
    rfl
  · rw [has, Node.hasValue] at vacant
    cases given : s.node.effective? s.type name with
    | none => simp [given] at vacant
    | some value =>
        obtain blank | ⟨raw, rfl, named⟩ := (idle value given).choice other read
        · simp [given, blank] at vacant
        · have some : Text.isBlank raw = false := by
            simpa [given, ConfigValue.isBlank] using vacant
          rw [text?_eq_ok_some.mpr ⟨raw, given, some, named⟩]
          rfl

theorem list_eq (read : name ∈ category.listFields) : s.list name = .ok [] := by
  refine list_eq_ok.mpr ?_
  cases given : s.node.effective? s.type name with
  | none => exact .inl ⟨rfl, rfl⟩
  | some value =>
      obtain ⟨blank, items, rfl⟩ := (idle value given).list read
      have empty : ∀ item ∈ items, Text.trim item = "" := fun item member =>
        Text.trim_eq_empty.mpr (List.all_eq_true.mp blank item member)
      exact .inr ⟨items, rfl, by simpa using empty⟩

end IdleAt

theorem IdleAt.threshold_eq (idle : s.IdleAt .qualityCheck "threshold") :
    threshold s = .ok (Double.ofInt 100) := by
  refine threshold_eq_ok.mpr ⟨by decide +kernel, ?_⟩
  cases given : s.node.effective? s.type "threshold" with
  | none => exact .inl ⟨rfl, rfl⟩
  | some value =>
      obtain ⟨n, rfl, same⟩ := (idle value given).number List.mem_cons_self
      exact .inr ⟨n, rfl, same⟩

end Source

/-- Sources read alike that differ in one field at most, where neither has more than an idle value. -/
theorem readAlike_of_idleAt {category : Category} (name : String) (left : s.IdleAt category name)
    (right : t.IdleAt category name) (rest : ∀ f, f ≠ name → s.Agrees t f)
    (typeId : s.type.id = t.type.id) : ReadAlike category s t where
  has f read := by
    by_cases same : f = name
    · subst same
      rw [left.has_eq read, right.has_eq read]
    · exact (rest f same).has_eq
  text? f read := by
    by_cases same : f = name
    · subst same
      rw [left.text?_eq read, right.text?_eq read]
    · exact (rest f same).text?_eq
  textOr e read := by
    by_cases same : e.1 = name
    · subst same
      rw [left.textOr_eq read, right.textOr_eq read]
    · rw [Source.textOr, Source.textOr, (rest e.1 same).text?_eq]
  list f read := by
    by_cases same : f = name
    · subst same
      rw [left.list_eq read, right.list_eq read]
    · exact (rest f same).list_eq
  threshold := by
    rintro rfl
    by_cases same : "threshold" = name
    · subst same
      rw [left.threshold_eq, right.threshold_eq]
    · rw [Settings.threshold, Settings.threshold, rest _ same]
  typeId := typeId

theorem project_eq_ok_transform {node : Node} {type : NodeType} {r : TransformSettings} :
    project node type = .ok (.transform r) ↔
      type.category = .transform ∧ ofTransform ⟨node, type⟩ = .ok r := by
  constructor
  · intro projected
    obtain ⟨category, made⟩ := project_eq_ok projected
    exact ⟨category.symm, made⟩
  · rintro ⟨category, made⟩
    unfold project
    simp only [category, made]
    rfl

/-- A query or a filter is made without a look at lists. -/
theorem ofTransform_iff_of_noLists {r : TransformSettings} (none : (transform r).listFields = [])
    (has : ∀ f, s.has f = t.has f)
    (text : ∀ f ∈ Category.transform.textFields, s.text f = t.text f) :
    ofTransform s = .ok r ↔ ofTransform t = .ok r := by
  have query := text "query" (by decide)
  have condition := text "condition" (by decide)
  rw [ofTransform_eq_ok, ofTransform_eq_ok]
  cases r with
  | filter => simp only [has, condition]
  | aggregate => cases none
  | query => simp only [has, query]

section Value

variable {node : Node} {type : NodeType} {name : String} {value : ConfigValue} {settings : Settings}

theorem Takes.idle (takes : settings.Takes name value) (blank : value.isBlank)
    (whole : settings.listFields = settings.category.listFields) :
    settings.category.Idle name value where
  text _ := blank
  choice _ _ := .inl blank
  list read := ⟨blank, takes.1 (whole ▸ read)⟩
  number read := absurd read takes.2

theorem takes_of_idle (idle : settings.category.Idle name value) (blank : value.isBlank) :
    settings.Takes name value := by
  refine ⟨fun read => (idle.list (settings.listFields_subset read)).2, fun read => ?_⟩
  obtain ⟨n, rfl, _⟩ := idle.number read
  cases blank

/-- Without the value and without the default, only the one field is read in another way. -/
theorem agrees_withoutDefault {f : String} (different : f ≠ name) :
    Source.Agrees ⟨node, type⟩ ⟨node.without name, type.withoutDefault name⟩ f := by
  rw [Source.Agrees, node.effective?_withoutDefault, if_neg different]

variable (given : node.config.get? name = some value) (blank : value.isBlank)

include given

theorem idleAt_of_get? {category : Category} (idle : category.Idle name value) :
    Source.IdleAt ⟨node, type⟩ category name := by
  intro other found
  obtain rfl := Option.some.inj ((Node.effective?_of_get? given).symm.trans found)
  exact idle

theorem project_withoutDefault (idle : type.category.Idle name value) :
    project node type = project (node.without name) (type.withoutDefault name) := by
  refine project_alike rfl (readAlike_of_idleAt name (idleAt_of_get? given idle) ?_ ?_ rfl)
  · intro v found
    rw [node.effective?_withoutDefault, if_pos rfl] at found
    cases found
  · exact fun f different => agrees_withoutDefault different

/-- Where neither the value nor the default does anything, the value can be left out. -/
theorem project_without (idle : type.category.Idle name value)
    (default : ∀ d, (type.field? name).bind (·.default) = some d → type.category.Idle name d) :
    project (node.without name) type = project node type := by
  refine project_alike rfl (readAlike_of_idleAt name ?_ (idleAt_of_get? given idle) ?_ rfl)
  · intro v found
    rw [node.effective?_without, if_pos rfl] at found
    exact default v found
  · intro f different
    rw [Source.Agrees, node.effective?_without, if_neg different]

include blank

theorem takes_of_project (projected : project node type = .ok settings) :
    settings.Takes name value := by
  have own : node.effective? type name = some value := Node.effective?_of_get? given
  have listed {items : List String} (read : Source.list ⟨node, type⟩ name = .ok items) :
      ∃ items, value = .list items := by
    obtain ⟨absent, _⟩ | ⟨raw, list, _⟩ := Source.list_eq_ok.mp read
    · cases own.symm.trans absent
    · exact ⟨raw, Option.some.inj (own.symm.trans list)⟩
  obtain ⟨_, made⟩ := project_eq_ok projected
  cases settings with
  | source r => exact ⟨nofun, nofun⟩
  | transform r =>
      cases r with
      | aggregate groupBy aggregates condition =>
          obtain ⟨_, _, groups, sums, _⟩ := ofTransform_eq_ok.mp made
          refine ⟨fun read => ?_, nofun⟩
          rcases List.mem_pair.mp read with rfl | rfl
          · exact listed groups
          · exact listed sums
      | _ => exact ⟨nofun, nofun⟩
  | check r =>
      obtain ⟨_, _, _, _, within, _⟩ := ofCheck_eq_ok made
      refine ⟨nofun, fun read => ?_⟩
      obtain rfl := List.mem_singleton.mp read
      obtain ⟨absent, _⟩ | ⟨n, number, _⟩ := (threshold_eq_ok.mp within).2
      · cases own.symm.trans absent
      · cases Option.some.inj (own.symm.trans number)
        cases blank
  | target r =>
      obtain ⟨_, _, _, _, keys, _, _, _, _, _, columns⟩ := ofTarget_eq_ok made
      refine ⟨fun read => ?_, nofun⟩
      rcases List.mem_pair.mp read with rfl | rfl
      · exact listed keys
      · exact listed columns

theorem has_withoutDefault (f : String) :
    Source.has ⟨node, type⟩ f = Source.has ⟨node.without name, type.withoutDefault name⟩ f := by
  by_cases same : f = name
  · subst same
    have gone : (node.without f).hasValue (type.withoutDefault f) f = false := by
      rw [Node.hasValue, node.effective?_withoutDefault, if_pos rfl]
    exact (Node.hasValue_of_blank given blank).trans gone.symm
  · exact (agrees_withoutDefault same).has_eq

theorem text_withoutDefault (f : String) :
    Source.text ⟨node, type⟩ f = Source.text ⟨node.without name, type.withoutDefault name⟩ f := by
  by_cases same : f = name
  · subst same
    have vacant : Source.has ⟨node, type⟩ f = false := Node.hasValue_of_blank given blank
    rw [Source.text, Source.text, Source.text?_of_not_has vacant,
      Source.text?_of_not_has ((has_withoutDefault given blank f).symm.trans vacant)]
  · exact (agrees_withoutDefault same).text_eq

/-- A blank value leads to the settings that the node would have without it if its type gave no
default, and to no settings where it is not taken. -/
theorem project_blank_eq_ok :
    project node type = .ok settings ↔
      project (node.without name) (type.withoutDefault name) = .ok settings ∧
        settings.Takes name value := by
  by_cases idle : type.category.Idle name value
  · rw [project_withoutDefault given idle]
    refine ⟨fun projected => ⟨projected, takes_of_idle ?_ blank⟩, And.left⟩
    rw [(project_eq_ok projected).1]
    exact idle
  -- A value that is not idle is taken by queries and filters, for which no list is read.
  have same (takes : settings.Takes name value) (category : settings.category = type.category) :
      project node type = .ok settings ↔
        project (node.without name) (type.withoutDefault name) = .ok settings := by
    have part : settings.listFields ≠ settings.category.listFields := fun whole =>
      idle (category ▸ takes.idle blank whole)
    cases settings with
    | transform r =>
        have noLists : (transform r).listFields = [] := by
          cases r with
          | aggregate => exact absurd rfl part
          | _ => rfl
        rw [project_eq_ok_transform, project_eq_ok_transform]
        exact and_congr_right fun _ => ofTransform_iff_of_noLists noLists
          (has_withoutDefault given blank) fun f _ => text_withoutDefault given blank f
    | _ => exact absurd rfl part
  constructor
  · intro projected
    have takes := takes_of_project given blank projected
    exact ⟨(same takes (project_eq_ok projected).1).mp projected, takes⟩
  · rintro ⟨projected, takes⟩
    exact (same takes (project_eq_ok projected).1).mpr projected

end Value

end Settings

namespace Validation

variable {node : Node} {type : NodeType} {name : String} {value : ConfigValue} {field : FieldSpec}

/-- A blank value is never at fault itself, so only what is said about missing values can change
without it. -/
theorem fieldFindings_without_iff_missing (declared : type.field? name = some field)
    (given : node.config.get? name = some value) (blank : value.isBlank) :
    fieldFindings (node.without name) type = fieldFindings node type ↔
      (type.requiredFields.filter fun f => !(node.without name).hasValue type f.name).map
          (missingField node) =
        (type.requiredFields.filter fun f => !node.hasValue type f.name).map
          (missingField node) := by
  unfold fieldFindings
  rw [Node.without, SortedMap.filterMap_entries_erase]
  · exact List.append_left_inj _
  · intro v found
    obtain rfl := Option.some.inj (given.symm.trans found)
    simp [valueFinding?, declared, blank]

/-- Without a blank value the same is found about the fields of a node, unless the field is required
and has a default, which then stands for the value. -/
theorem fieldFindings_without (sound : type.Sound) (declared : type.field? name = some field)
    (given : node.config.get? name = some value) (blank : value.isBlank) :
    fieldFindings (node.without name) type = fieldFindings node type ↔
      ¬ (field.required ∧ ∃ d, field.default = some d ∧ d.isBlank = false) := by
  have vacant : node.hasValue type name = false := Node.hasValue_of_blank given blank
  obtain ⟨listed, named⟩ := sound.field?_eq_some.mp declared
  rw [fieldFindings_without_iff_missing declared given blank]
  constructor
  · rintro same ⟨required, d, default, nonblank⟩
    have fewer (f : FieldSpec) (gap : !(node.without name).hasValue type f.name) :
        !node.hasValue type f.name := by
      rw [node.hasValue_without type name declared] at gap
      split at gap
      next same => rw [same, vacant]; rfl
      next => exact gap
    -- The gaps without the value are some of the gaps with it, and as many.
    have part := List.monotone_filter_right type.requiredFields fewer
    have all := part.eq_of_length (by simpa using congrArg List.length same)
    have gap : field ∈ type.requiredFields.filter fun f => !node.hasValue type f.name :=
      List.mem_filter.mpr ⟨List.mem_filter.mpr ⟨listed, required⟩, by simp [named, vacant]⟩
    rw [← all] at gap
    have gap := (List.mem_filter.mp gap).2
    rw [node.hasValue_without type name declared, if_pos named, default] at gap
    simp [nonblank] at gap
  · intro kept
    congr 1
    refine List.filter_congr fun f member => ?_
    rw [node.hasValue_without type name declared]
    split
    next same =>
      obtain ⟨member, required⟩ := List.mem_filter.mp member
      obtain rfl := Option.some.inj
        (declared.symm.trans (sound.field?_eq_some.mpr ⟨member, same⟩))
      have none : field.default.any (fun d => !d.isBlank) = false := by
        cases default : field.default with
        | none => rfl
        | some d =>
            by_contra any
            exact kept ⟨required, d, default, by simpa using any⟩
      rw [none, same, vacant]
    next => rfl

theorem requiredConfigOf_without
    (fields : fieldFindings (node.without name) type = fieldFindings node type)
    (settings : Settings.project (node.without name) type = Settings.project node type) :
    requiredConfigOf (node.without name) type = requiredConfigOf node type := by
  unfold requiredConfigOf
  rw [fields, settings]
  rfl

end Validation

/-- What a blank value does. It leads to the settings that the node would have without it if its type
gave no default, and to none where it is read as something that it is not: as a list, or as a number.
Something is found about it that would not be found without it only where a required field has a
default. So the value can be left out, without a change of the settings and of what is found, where
neither it nor the default of its field does anything to the settings, and no default stands for a
required value. -/
theorem blank_value_exact {node : Node} {type : NodeType} {name : String} {field : FieldSpec}
    {value : ConfigValue} (sound : type.fault? = none) (declared : type.field? name = some field)
    (given : node.config.get? name = some value) (blank : value.isBlank) :
    (∀ settings, Settings.project node type = .ok settings ↔
      Settings.project (node.without name) (type.withoutDefault name) = .ok settings ∧
        settings.Takes name value) ∧
    (Validation.fieldFindings (node.without name) type = Validation.fieldFindings node type ↔
      ¬ (field.required ∧ ∃ d, field.default = some d ∧ d.isBlank = false)) ∧
    (type.category.Idle name value →
      (∀ d, field.default = some d → type.category.Idle name d) →
        Settings.project (node.without name) type = Settings.project node type ∧
        (¬ (field.required ∧ ∃ d, field.default = some d ∧ d.isBlank = false) →
          Validation.requiredConfigOf (node.without name) type =
            Validation.requiredConfigOf node type)) := by
  have fields := Validation.fieldFindings_without (NodeType.fault?_eq_none.mp sound) declared given
    blank
  refine ⟨fun settings => Settings.project_blank_eq_ok given blank, fields, fun idle default => ?_⟩
  have same : Settings.project (node.without name) type = Settings.project node type :=
    Settings.project_without given idle (by simpa [declared] using default)
  exact ⟨same, fun kept => Validation.requiredConfigOf_without (fields.mpr kept) same⟩

/-- A check whose percentage is an empty text. -/
def emptyThreshold : Node where
  id := "q"
  type := "quality-check"
  label := ""
  config := .ofList
    [("rule", .text "uniqueness"), ("column", .text "email"), ("threshold", .text "")]

/-- The empty text is found at fault, and without it the check is made with the default. -/
theorem blank_value_exact_emptyThreshold :
    ∃ type, Catalog.standard.get? "quality-check" = some type ∧
      (∀ settings, Settings.project emptyThreshold type ≠ .ok settings) ∧
      Validation.requiredConfigOf emptyThreshold type =
        [Validation.badField emptyThreshold ⟨"threshold", .misfit (.wrongKind .number "string")⟩] ∧
      Settings.project (emptyThreshold.without "threshold") type =
        .ok (.check ⟨.uniqueness, "email", none, Double.ofInt 100, .warn⟩) ∧
      Validation.requiredConfigOf (emptyThreshold.without "threshold") type = [] := by
  obtain ⟨type, field, registered, category, sound, declared, found, projected, clean⟩ :
      ∃ type field, Catalog.standard.get? "quality-check" = some type ∧
        type.category = .qualityCheck ∧ type.fault? = none ∧
        type.field? "threshold" = some field ∧
        Validation.requiredConfigOf emptyThreshold type =
          [Validation.badField emptyThreshold
            ⟨"threshold", .misfit (.wrongKind .number "string")⟩] ∧
        Settings.project (emptyThreshold.without "threshold") type =
          .ok (.check ⟨.uniqueness, "email", none, Double.ofInt 100, .warn⟩) ∧
        Validation.requiredConfigOf (emptyThreshold.without "threshold") type = [] :=
    ⟨_, _, rfl, rfl, by decide +kernel, rfl, by decide +kernel, by decide +kernel,
      by decide +kernel⟩
  have given : emptyThreshold.config.get? "threshold" = some (.text "") := by decide +kernel
  obtain ⟨exact, _⟩ := blank_value_exact sound declared given (by decide)
  refine ⟨type, registered, fun settings made => ?_, found, projected, clean⟩
  obtain ⟨_, takes⟩ := (exact settings).mp made
  rw [Settings.Takes, (Settings.project_eq_ok made).1, category] at takes
  exact takes.2 List.mem_cons_self

end Etl
