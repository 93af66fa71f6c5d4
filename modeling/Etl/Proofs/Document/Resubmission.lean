import Etl.Catalog.Standard
import Etl.Proofs.Document.Conformance

/-!
Two checks of one configuration. The check of an edit stops at the first value that the type of the
node refuses, and validation names all of them. Both go over the values in order of their fields and
refuse the same ones for the same reasons, so what validation has nothing to say about can be handed
in again as it is.
-/

namespace Etl

open Results

/-- Why a type refuses a configured value. -/
inductive Refusal where
  | undeclared
  | misfit (m : Misfit)
deriving DecidableEq

namespace Refusal

/-- What an edit is refused with. -/
def error (node : Node) (type : NodeType) (field : String) : Refusal → Error
  | undeclared => .unknownField node.id type.id field
  | misfit m => .invalidConfig node.id ⟨field, .misfit m⟩

/-- What validation says. -/
def finding (node : Node) (type : NodeType) (field : String) : Refusal → Diagnostic
  | undeclared => Validation.unknownField node type field
  | misfit m => Validation.badField node ⟨field, .misfit m⟩

end Refusal

/-- The type does not declare the field, or the value is not blank and does not fit it. -/
inductive NodeType.Refuses (type : NodeType) (name : String) (value : ConfigValue) : Refusal → Prop
  | undeclared (unknown : type.field? name = none) : type.Refuses name value .undeclared
  | misfit {field : FieldSpec} {m : Misfit} (declared : type.field? name = some field)
      (given : value.isBlank = false) (found : field.misfit? value = some m) :
      type.Refuses name value (.misfit m)

namespace NodeType

def refusal? (type : NodeType) (name : String) (value : ConfigValue) : Option Refusal :=
  match type.field? name with
  | none => some .undeclared
  | some field => if value.isBlank then none else (field.misfit? value).map .misfit

theorem refusal?_eq_some {type : NodeType} {name : String} {value : ConfigValue} {r : Refusal} :
    type.refusal? name value = some r ↔ type.Refuses name value r := by
  unfold refusal?
  constructor
  · intro refused
    split at refused
    next unknown =>
      obtain rfl := Option.some.inj refused
      exact .undeclared unknown
    next field declared =>
      split at refused
      next => cases refused
      next given =>
        obtain ⟨m, found, rfl⟩ := Option.map_eq_some_iff.mp refused
        exact .misfit declared (by simpa using given) found
  · intro refuses
    cases refuses with
    | undeclared unknown => rw [unknown]
    | misfit declared given found => simp [declared, given, found]

end NodeType

namespace Node

variable (node : Node) (type : NodeType)

/-- The values that the type refuses, by field and in order of the fields. -/
def refusals : List (String × Refusal) :=
  node.config.entries.filterMap fun (name, value) => (type.refusal? name value).map (name, ·)

theorem mem_refusals {name : String} {r : Refusal} :
    (name, r) ∈ node.refusals type ↔
      ∃ value, node.config.get? name = some value ∧ type.Refuses name value r := by
  simp only [refusals, List.mem_filterMap, Option.map_eq_some_iff, Prod.mk.injEq]
  constructor
  · rintro ⟨⟨name, value⟩, entry, r, refused, rfl, rfl⟩
    exact ⟨value, SortedMap.get?_eq_some_iff.mpr entry, NodeType.refusal?_eq_some.mp refused⟩
  · rintro ⟨value, found, refuses⟩
    exact ⟨(name, value), SortedMap.get?_eq_some_iff.mp found, r,
      NodeType.refusal?_eq_some.mpr refuses, rfl, rfl⟩

theorem refusals_pairwise :
    (node.refusals type).Pairwise fun a b => compare a.1 b.1 = .lt := by
  refine List.pairwise_filterMap.mpr (node.config.ascending.imp ?_)
  rintro ⟨a, _⟩ ⟨b, _⟩ less _ first _ second
  obtain ⟨_, _, rfl⟩ := Option.map_eq_some_iff.mp first
  obtain ⟨_, _, rfl⟩ := Option.map_eq_some_iff.mp second
  exact less

theorem valueFault?_eq (name : String) (value : ConfigValue) :
    valueFault? type node.id name value =
      (type.refusal? name value).map fun r => r.error node type name := by
  unfold valueFault? NodeType.refusal?
  cases type.field? name with
  | none => rfl
  | some field => cases value.isBlank <;> simp [Refusal.error, Function.comp_def]

theorem valueFinding?_eq (name : String) (value : ConfigValue) :
    Validation.valueFinding? node type name value =
      (type.refusal? name value).map fun r => r.finding node type name := by
  unfold Validation.valueFinding? NodeType.refusal?
  cases type.field? name with
  | none => rfl
  | some field => cases value.isBlank <;> simp [Refusal.finding, Function.comp_def]

/-- The check of an edit answers with the first refusal. -/
theorem checkConfig_eq : node.checkConfig type =
    match (node.refusals type).head? with
    | some (name, r) => .error (r.error node type name)
    | none => .ok () := by
  have first : (node.config.entries.findSome? fun (name, value) =>
      valueFault? type node.id name value) =
        (node.refusals type).head?.map fun (name, r) => r.error node type name := by
    rw [refusals, List.head?_filterMap, List.map_findSome?]
    simp only [valueFault?_eq, Function.comp_def, Option.map_map]
  rw [checkConfig, first]
  cases (node.refusals type).head? <;> rfl

/-- Validation names the required fields without a value, and then every refusal. -/
theorem fieldFindings_eq : Validation.fieldFindings node type =
    ((type.requiredFields.filter fun field => !node.hasValue type field.name).map
      (Validation.missingField node)) ++
        (node.refusals type).map fun (name, r) => r.finding node type name := by
  rw [Validation.fieldFindings, refusals, List.map_filterMap]
  simp only [valueFinding?_eq, Option.map_map, Function.comp_def]

end Node

variable {c : Catalog} {p : Pipeline} {node : Node} {type : NodeType} {id : NodeId}

theorem Pipeline.editNode_eq_self {change : Node → Node} (found : p.node? id = some node)
    (same : change node = node) : p.editNode id change = .ok p := by
  have stored : p.nodes.insert id node = p.nodes := SortedMap.insert_of_get? found
  rw [editNode, requireNode_eq_ok.mpr found]
  simp only [bind, Except.bind, same, stored]
  rfl

theorem Edit.checkNode_eq {change : Node → Node} (found : p.node? id = some node)
    (registered : c.get? node.type = some type) (same : change node = node) :
    checkNode c p id change = node.checkConfig type := by
  rw [checkNode, Pipeline.requireNode_eq_ok.mpr found]
  simp only [bind, Except.bind, same, Catalog.lookup_eq_ok.mpr registered]

theorem Edit.check_addNode (registered : c.get? node.type = some type) :
    (addNode node).check c p = node.checkConfig type := by
  rw [check, Catalog.lookup_eq_ok.mpr registered]
  rfl

theorem Document.apply_eq_perform {d : Document} {e : Edit}
    (checked : e.check d.compiler.catalog d.pipeline = .ok ()) :
    d.apply e = (e.perform d.pipeline).map fun q =>
      { d with pipeline := q, version := d.version + 1, cache := .empty } := by
  rw [apply, checked]
  cases e.perform d.pipeline <;> rfl

/-- A report without an entry about the configuration of a node: the node's type refuses nothing. -/
theorem Validator.refusals_eq_nil {v : Validator} (visited : node ∈ p.nodeList)
    (registered : c.get? node.type = some type)
    (clean : ∀ entry ∈ (v.validate p c).diagnostics,
      entry.rule = .requiredConfig → entry.node ≠ some node.id) : node.refusals type = [] := by
  have none : Validation.requiredConfigOf node type = [] := by
    by_contra some
    obtain ⟨d, member⟩ := List.exists_mem_of_ne_nil _ some
    have found : d ∈ v.findings p c := exists_mem_foundBy.mpr ⟨.requiredConfig,
      List.mem_flatMap.mpr ⟨(node, type), Validation.mem_resolved.mpr ⟨visited, registered⟩, member⟩⟩
    refine clean _ (apply_mem_diagnostics found) ?_ ?_
    · rw [v.policy.rule_apply, (Validation.foundBy_requiredConfigOf member).1]
    · rw [v.policy.node_apply, Validation.node_of_mem_requiredConfigOf member]
  have fields := (Validation.requiredConfigOf_eq_nil.mp none).1
  rw [node.fieldFindings_eq type] at fields
  exact List.map_eq_nil_iff.mp (List.append_eq_nil_iff.mp fields).2

/-- The check of an edit and validation agree about the values of a node. Both refuse the values of
fields that the type does not declare and, among those that are not blank, the ones that do not fit
their fields. Validation names them all in ascending order of the fields, behind the required fields
without a value, and the check of an edit fails with the first of them. So the configuration of a
node about which a report says nothing is never a reason against handing it in again: the edit then
does what it would do with any node that its type admits. -/
theorem config_checks_agree (h : p.Reachable) (found : p.node? id = some node)
    (registered : c.get? node.type = some type) :
    (∀ name r, (name, r) ∈ node.refusals type ↔
      ∃ value, node.config.get? name = some value ∧ type.Refuses name value r) ∧
    ((node.refusals type).Pairwise fun a b => compare a.1 b.1 = .lt) ∧
    (Validation.fieldFindings node type =
      ((type.requiredFields.filter fun field => !node.hasValue type field.name).map
        (Validation.missingField node)) ++
          (node.refusals type).map fun (name, r) => r.finding node type name) ∧
    (node.checkConfig type =
      match (node.refusals type).head? with
      | some (name, r) => .error (r.error node type name)
      | none => .ok ()) ∧
    ∀ v : Validator, (∀ entry ∈ (v.validate p c).diagnostics,
        entry.rule = .requiredConfig → entry.node ≠ some id) →
      ∀ d : Document, d.compiler.catalog = c →
        (d.pipeline.containsNode id → d.apply (.addNode node) = .error (.duplicateNode id)) ∧
        (d.pipeline.containsNode id = false → ∃ q, d.pipeline.addNode node = .ok q ∧
          d.apply (.addNode node) =
            .ok { d with pipeline := q, version := d.version + 1, cache := .empty }) ∧
        (d.pipeline = p → ∀ e ∈ [Edit.setConfig id node.config, Edit.updateConfig id .empty],
          d.apply e = .ok { d with version := d.version + 1, cache := .empty }) := by
  refine ⟨fun _ _ => node.mem_refusals type, node.refusals_pairwise type,
    node.fieldFindings_eq type, node.checkConfig_eq type, fun v clean d catalog => ?_⟩
  have key : node.id = id := h.wellFormed.keyed found
  have passes : node.checkConfig type = .ok () := by
    rw [node.checkConfig_eq type, Validator.refusals_eq_nil (Pipeline.mem_nodeList.mpr ⟨id, found⟩)
      registered (key ▸ clean)]
    rfl
  subst catalog
  have added : d.apply (.addNode node) = _ :=
    Document.apply_eq_perform ((Edit.check_addNode registered).trans passes)
  refine ⟨fun present => ?_, fun absent => ?_, ?_⟩
  · rw [added, Edit.perform, Pipeline.addNode, key, if_pos present]
    rfl
  · obtain ⟨q, new⟩ : ∃ q, d.pipeline.addNode node = .ok q := by
      rw [Pipeline.addNode, key, if_neg (by simp [absent])]
      exact ⟨_, rfl⟩
    refine ⟨q, new, ?_⟩
    rw [added, Edit.perform, new]
    rfl
  · rintro rfl e member
    have same : node.updated .empty = node := rfl
    rcases List.mem_pair.mp member with rfl | rfl
    · have checked : (Edit.setConfig id node.config).check d.compiler.catalog d.pipeline = .ok () :=
        (Edit.checkNode_eq found registered rfl).trans passes
      rw [Document.apply_eq_perform checked, Edit.perform, Pipeline.configure,
        Pipeline.editNode_eq_self found rfl]
      rfl
    · have checked : (Edit.updateConfig id .empty).check d.compiler.catalog d.pipeline = .ok () :=
        (Edit.checkNode_eq found registered same).trans passes
      rw [Document.apply_eq_perform checked, Edit.perform, Pipeline.reconfigure,
        Pipeline.editNode_eq_self found same]
      rfl

/-- A source in order, and a check with a mode that there is not and a field that there is not. -/
def misspelledCheck : Descriptor where
  id := "p"
  name := "P"
  nodes :=
    [⟨"a", "source-pg", "", .ofList [("connection", .text "dwh"), ("table", .text "orders")]⟩,
     ⟨"q", "quality-check", "",
       .ofList [("severity", .text "high"), ("rule", .text "range"), ("mode", .text "explode"),
         ("column", .text " ")]⟩]
  edges := [⟨"a", "q"⟩]

/-- The check is refused for its mode, the source is taken again. -/
theorem config_checks_agree_misspelledCheck :
    ∃ p check type source, Pipeline.ofDescriptor misspelledCheck = .ok p ∧
      p.node? "q" = some check ∧ Catalog.standard.get? check.type = some type ∧
      (check.refusals type).map (·.1) = ["mode", "severity"] ∧
      check.checkConfig type =
        .error (.invalidConfig "q" ⟨"mode", .misfit (.noOption "explode" ["warn", "block"])⟩) ∧
      p.node? "a" = some source ∧
      (Document.ofPipeline ⟨Catalog.standard, default⟩ p).apply (.setConfig "a" source.config) =
        .ok { Document.ofPipeline ⟨Catalog.standard, default⟩ p with version := 1 } := by
  obtain ⟨p, built⟩ : ∃ p, Pipeline.ofDescriptor misspelledCheck = .ok p := ⟨_, rfl⟩
  have h : p.Reachable := .loaded built
  obtain ⟨check, type, found, registered, refused⟩ : ∃ check type, p.node? "q" = some check ∧
      Catalog.standard.get? check.type = some type ∧ check.refusals type =
        [("mode", .misfit (.noOption "explode" ["warn", "block"])), ("severity", .undeclared)] := by
    cases built
    exact ⟨_, _, rfl, rfl, by decide +kernel⟩
  obtain ⟨source, type', found', registered'⟩ : ∃ source type, p.node? "a" = some source ∧
      Catalog.standard.get? source.type = some type := by
    cases built
    exact ⟨_, _, rfl, rfl⟩
  have clean : ∀ entry ∈ (Validator.standard.validate p Catalog.standard).diagnostics,
      entry.rule = .requiredConfig → entry.node ≠ some "a" := by
    have apart : ∀ d ∈ Validation.requiredConfig p Catalog.standard, d.node ≠ some "a" := by
      cases built
      decide +kernel
    intro entry reported rule
    obtain ⟨d, found, rfl⟩ :=
      Validator.exists_foundBy_of_mem_diagnostics (by decide) reported rule
    rw [Policy.node_apply]
    exact apart d found
  obtain ⟨_, _, _, first, _⟩ := config_checks_agree h found registered
  obtain ⟨_, _, _, _, again⟩ := config_checks_agree h found' registered'
  rw [refused] at first
  refine ⟨p, check, type, source, built, found, registered, by rw [refused]; rfl, ?_, found', ?_⟩
  · have key : check.id = "q" := h.wellFormed.keyed found
    rw [first, ← key]
    rfl
  · exact (again _ clean _ rfl).2.2 rfl _ List.mem_cons_self

end Etl
