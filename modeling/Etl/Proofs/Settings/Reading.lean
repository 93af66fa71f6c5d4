import Etl.Proofs.Settings

/-!
What settings are made from. Each category reads its own fields, some as texts, some as choices that
can be left open, some as lists and one as a number. Settings of two nodes are the same, and fail in
the same way, when all that is read of them is.
-/

namespace Etl

/-- A name is looked up among the names of all choices. -/
theorem ofName_eq_ok {α : Type} {name : α → String} (distinct : Function.Injective name)
    {kind text : String} {all : List α} {a : α} :
    ofName kind (all.map fun a => (name a, a)) text = .ok a ↔ a ∈ all ∧ name a = text := by
  have found : (all.map fun a => (name a, a)).lookup text = some a ↔ a ∈ all ∧ name a = text := by
    induction all with
    | nil => simp
    | cons first all ih =>
        rw [List.map_cons, List.lookup_cons, List.mem_cons]
        by_cases here : text = name first
        · subst here
          rw [beq_self_eq_true]
          constructor
          · intro same
            obtain rfl := Option.some.inj same
            exact ⟨.inl rfl, rfl⟩
          · exact fun both => congrArg some (distinct both.2).symm
        · rw [beq_eq_false_iff_ne.mpr here, ih]
          refine and_congr_left fun named => (or_iff_right ?_).symm
          rintro rfl
          exact here named.symm
  unfold ofName
  rw [← found]
  cases (all.map fun a => (name a, a)).lookup text <;> simp

theorem LoadStrategy.parse_eq_ok {text : String} {s : LoadStrategy} :
    parse text = .ok s ↔ text = s.name := by
  have distinct : Function.Injective name := by
    intro a b same
    cases a <;> cases b <;> first | rfl | exact absurd same (by decide)
  rw [parse, ofName_eq_ok distinct, eq_comm]
  exact and_iff_right (by cases s <;> decide)

end Etl

namespace Etl.Category

/-- The fields that are read as texts, or as choices that have to be made. -/
def textFields : Category → List String
  | source => ["path", "topic", "connection", "schema", "table"]
  | transform => ["query", "condition"]
  | qualityCheck => ["rule", "expression", "column"]
  | target => ["connection", "schema", "table"]

/-- The choices that can be left open, and the names that they then have. -/
def choiceFields : Category → List (String × String)
  | source => [("format", FileFormat.csv.name)]
  | transform => []
  | qualityCheck => [("mode", QualityMode.warn.name)]
  | target => [("load_strategy", LoadStrategy.append.name)]

/-- The fields that are read as lists. -/
def listFields : Category → List String
  | transform => ["group_by", "aggregates"]
  | target => ["key_columns", "columns"]
  | source | qualityCheck => []

/-- The fields that are read as numbers. -/
def numberFields : Category → List String
  | qualityCheck => ["threshold"]
  | source | transform | target => []

end Etl.Category

namespace Etl.Settings

open Results

variable {s t : Source}

namespace Source

theorem choice?_eq_ok_some {α : Type} {parse : String → Except UnknownName α}
    {field : String} {a : α} : s.choice? parse field = .ok (some a) ↔
      ∃ text, s.text? field = .ok (some text) ∧ parse text = .ok a := by
  rw [choice?, bind_eq_ok]
  constructor
  · rintro ⟨given, read, chosen⟩
    cases given with
    | none => cases chosen
    | some text =>
        refine ⟨text, read, ?_⟩
        cases parsed : parse text <;> simp_all [pure, Except.pure]
  · rintro ⟨text, read, parsed⟩
    exact ⟨some text, read, by simp [parsed, pure, Except.pure]⟩

/-- The text of a field, or another one where none is given. -/
def textOr (s : Source) (field other : String) : Except ConfigFault String :=
  (s.text? field).map (·.getD other)

/-- A choice that can be left open is made by the name that it then has. -/
theorem choice?_getD {α : Type} {parse : String → Except UnknownName α} {field other : String}
    {a : α} (known : parse other = .ok a) :
    (s.choice? parse field).map (·.getD a) = s.textOr field other >>= fun text =>
      match parse text with
      | .ok a => .ok a
      | .error u => .error ⟨field, .unknownName u⟩ := by
  rw [choice?, textOr]
  cases s.text? field with
  | error fault => rfl
  | ok given =>
      cases given with
      | none => simp [bind, Except.bind, Except.map, pure, Except.pure, known]
      | some text => cases parsed : parse text <;>
          simp [bind, Except.bind, Except.map, pure, Except.pure, parsed]

end Source

/-- All that settings of the category are made from is read alike. -/
structure ReadAlike (category : Category) (s t : Source) : Prop where
  has : ∀ f ∈ category.textFields ++ category.listFields, s.has f = t.has f
  text? : ∀ f ∈ category.textFields, s.text? f = t.text? f
  textOr : ∀ e ∈ category.choiceFields, s.textOr e.1 e.2 = t.textOr e.1 e.2
  list : ∀ f ∈ category.listFields, s.list f = t.list f
  threshold : category = .qualityCheck → threshold s = threshold t
  typeId : s.type.id = t.type.id

namespace ReadAlike

variable {category : Category} {s t : Source} (alike : ReadAlike category s t)

include alike

theorem text {f : String} (read : f ∈ category.textFields) : s.text f = t.text f := by
  rw [Source.text, Source.text, alike.text? f read]

theorem choice? {α : Type} (parse : String → Except UnknownName α) {f : String}
    (read : f ∈ category.textFields) : s.choice? parse f = t.choice? parse f := by
  rw [Source.choice?, Source.choice?, alike.text? f read]

theorem choice?_getD {α : Type} {parse : String → Except UnknownName α} {f other : String} {a : α}
    (read : (f, other) ∈ category.choiceFields) (known : parse other = .ok a) :
    (s.choice? parse f).map (·.getD a) = (t.choice? parse f).map (·.getD a) := by
  rw [Source.choice?_getD known, Source.choice?_getD known, alike.textOr _ read]

end ReadAlike

theorem ofSource_alike (alike : ReadAlike .source s t) : ofSource s = ofSource t := by
  unfold ofSource
  rw [alike.has "path" (by decide), alike.has "topic" (by decide),
    alike.text (f := "path") (by decide), alike.text? "connection" (by decide),
    alike.text (f := "topic") (by decide), alike.text? "schema" (by decide),
    alike.text (f := "table") (by decide)]
  split
  next =>
    refine congrArg (t.text "path" >>= ·) (funext fun path => ?_)
    refine bind_eq_of_getD (alike.choice?_getD List.mem_cons_self rfl) fun _ _ same => ?_
    rw [same]
  next => rfl

theorem ofTransform_alike (alike : ReadAlike .transform s t) : ofTransform s = ofTransform t := by
  unfold ofTransform
  rw [alike.has "query" (by decide), alike.has "aggregates" (by decide),
    alike.has "group_by" (by decide), alike.has "condition" (by decide),
    alike.text (f := "query") (by decide), alike.list "group_by" (by decide),
    alike.list "aggregates" (by decide), alike.text? "condition" (by decide),
    alike.text (f := "condition") (by decide), alike.typeId]

theorem ofCheck_alike (alike : ReadAlike .qualityCheck s t) : ofCheck s = ofCheck t := by
  -- The mode is read last, and goes into the settings with all that was read before.
  have mode (rule : QualityRule) (column : String) (expression : Option String)
      (threshold : Double) :
      (s.choice? QualityMode.parse "mode" >>= fun mode => (pure
        { rule, column, expression, threshold, mode := mode.getD .warn } :
          Except ConfigFault CheckSettings)) =
      t.choice? QualityMode.parse "mode" >>= fun mode => pure
        { rule, column, expression, threshold, mode := mode.getD .warn } :=
    bind_eq_of_getD (alike.choice?_getD List.mem_cons_self rfl) fun _ _ same => by rw [same]
  unfold ofCheck
  rw [alike.choice? _ (f := "rule") (by decide), alike.text? "expression" (by decide),
    alike.threshold rfl, alike.text (f := "column") (by decide)]
  simp only [mode]

theorem ofTarget_alike (alike : ReadAlike .target s t) : ofTarget s = ofTarget t := by
  unfold ofTarget
  rw [alike.list "key_columns" (by decide), alike.text? "connection" (by decide),
    alike.text? "schema" (by decide), alike.text (f := "table") (by decide),
    alike.list "columns" (by decide)]
  refine bind_eq_of_getD (alike.choice?_getD List.mem_cons_self rfl) fun _ _ same => ?_
  rw [same]

/-- Settings are made from what is read, and from nothing else. -/
theorem project_alike {a b : Node} {type type' : NodeType} (same : type'.category = type.category)
    (alike : ReadAlike type.category ⟨a, type⟩ ⟨b, type'⟩) : project a type = project b type' := by
  unfold project
  rw [same]
  cases category : type.category with
  | source => rw [category] at alike; simp only [ofSource_alike alike]
  | transform => rw [category] at alike; simp only [ofTransform_alike alike]
  | qualityCheck => rw [category] at alike; simp only [ofCheck_alike alike]
  | target => rw [category] at alike; simp only [ofTarget_alike alike]

end Etl.Settings
