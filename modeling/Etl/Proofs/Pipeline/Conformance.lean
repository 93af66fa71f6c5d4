import Etl.Proofs.Pipeline.Cycle
import Etl.Proofs.Sql.Plan
import Etl.Proofs.Validation.Findings

/-!
Pipelines that conform to a catalog: every node has a registered type, which declares each field
that the node configures and accepts each value that is not blank. This is what an edit is checked
for, so an accepted edit keeps it, and where it holds validation finds nothing about types and values
but what is missing and what the settings of a node need beyond its fields.
-/

namespace Etl

open Results Relation

/-- The type declares a field of this name, which accepts the value or is blank. -/
def NodeType.Admits (type : NodeType) (name : String) (value : ConfigValue) : Prop :=
  ∃ field, type.field? name = some field ∧ (value.isBlank = false → field.misfit? value = none)

namespace Node

/-- Everything that the node configures, the type admits. -/
def Fits (node : Node) (type : NodeType) : Prop :=
  ∀ name value, node.config.get? name = some value → type.Admits name value

def Conforms (node : Node) (c : Catalog) : Prop :=
  ∃ type, c.get? node.type = some type ∧ node.Fits type

theorem valueFault?_eq_none {type : NodeType} {id : NodeId} {name : String} {value : ConfigValue} :
    valueFault? type id name value = none ↔ type.Admits name value := by
  unfold valueFault? NodeType.Admits
  cases type.field? name with
  | none => simp
  | some field => cases value.isBlank <;> simp

theorem checkConfig_eq_ok {node : Node} {type : NodeType} :
    node.checkConfig type = .ok () ↔ node.Fits type := by
  have passes : node.checkConfig type = .ok () ↔
      (node.config.entries.findSome? fun e => valueFault? type node.id e.1 e.2) = none := by
    unfold checkConfig
    split
    next fault found =>
      have blocked : (node.config.entries.findSome? fun e => valueFault? type node.id e.1 e.2) =
        some fault := found
      simp [blocked]
    next clean =>
      have free : (node.config.entries.findSome? fun e => valueFault? type node.id e.1 e.2) =
        none := clean
      simp [free]
  rw [passes, List.findSome?_eq_none_iff]
  constructor
  · intro each name value found
    exact valueFault?_eq_none.mp (each (name, value) (SortedMap.get?_eq_some_iff.mp found))
  · rintro fits ⟨name, value⟩ member
    exact valueFault?_eq_none.mpr (fits name value (SortedMap.get?_eq_some_iff.mpr member))

end Node

namespace Pipeline

variable {p q : Pipeline} {c : Catalog}

def Conforms (p : Pipeline) (c : Catalog) : Prop := ∀ node ∈ p.nodeList, node.Conforms c

theorem empty_conforms (id : PipelineId) (name : String) : (empty id name).Conforms c := by
  intro node visited
  cases visited

namespace Conforms

/-- Nodes conform where they come from a pipeline whose nodes do. -/
theorem of_nodes (h : p.Conforms c)
    (old : ∀ id node, q.node? id = some node → p.node? id = some node ∨ node.Conforms c) :
    q.Conforms c := by
  intro node visited
  obtain ⟨id, found⟩ := mem_nodeList.mp visited
  rcases old id node found with before | conforms
  · exact h node (mem_nodeList.mpr ⟨id, before⟩)
  · exact conforms

theorem addNode (h : p.Conforms c) {node : Node} (conforms : node.Conforms c)
    (added : p.addNode node = .ok q) : q.Conforms c := by
  obtain ⟨_, rfl⟩ := addNode_eq_ok added
  refine h.of_nodes fun id other found => ?_
  simp only [node?, SortedMap.get?_insert] at found
  split at found
  next => exact .inr (Option.some.inj found ▸ conforms)
  next => exact .inl found

theorem removeNode (h : p.Conforms c) {id : NodeId} {node : Node}
    (removed : p.removeNode id = .ok (node, q)) : q.Conforms c := by
  obtain ⟨_, rfl⟩ := removeNode_eq_ok removed
  refine h.of_nodes fun other kept found => .inl ?_
  simp only [node?, SortedMap.get?_erase] at found
  split at found
  next => cases found
  next => exact found

theorem editNode (h : p.Conforms c) {id : NodeId} (change : Node → Node)
    (conforms : ∀ node, p.node? id = some node → (change node).Conforms c)
    (edited : p.editNode id change = .ok q) : q.Conforms c := by
  obtain ⟨node, found, rfl⟩ := editNode_eq_ok edited
  refine h.of_nodes fun other changed read => ?_
  simp only [node?, SortedMap.get?_insert] at read
  split at read
  next =>
    obtain ⟨type, registered, fits⟩ := conforms node found
    cases read
    exact .inr ⟨type, registered, fits⟩
  next => exact .inl read

end Conforms

end Pipeline

namespace Edit

variable {p q : Pipeline} {c : Catalog}

theorem conforms_of_checkNode {id : NodeId} (change : Node → Node)
    (keeps : ∀ node, (change node).type = node.type)
    (checked : checkNode c p id change = .ok ()) {node : Node} (found : p.node? id = some node) :
    (change node).Conforms c := by
  obtain ⟨other, required, rest⟩ := bind_eq_ok.mp checked
  obtain rfl := Option.some.inj (found.symm.trans (Pipeline.requireNode_eq_ok.mp required))
  obtain ⟨type, looked, passes⟩ := bind_eq_ok.mp rest
  exact ⟨type, (keeps node).symm ▸ Catalog.lookup_eq_ok.mp looked,
    Node.checkConfig_eq_ok.mp passes⟩

/-- An edit that passes its check leaves a pipeline that conforms. -/
theorem conforms_of_perform (h : p.Conforms c) {e : Edit} (checked : e.check c p = .ok ())
    (performed : e.perform p = .ok q) : q.Conforms c := by
  cases e with
  | addNode node =>
      obtain ⟨type, looked, passes⟩ := bind_eq_ok.mp checked
      exact h.addNode ⟨type, Catalog.lookup_eq_ok.mp looked, Node.checkConfig_eq_ok.mp passes⟩
        performed
  | removeNode id =>
      obtain ⟨⟨node, q⟩, removed, rfl⟩ := map_eq_ok.mp performed
      exact h.removeNode removed
  | addEdge e =>
      obtain ⟨_, _, rfl⟩ := Pipeline.addEdge_eq_ok performed
      exact h
  | removeEdge e =>
      cases Pipeline.removeEdge_eq_ok performed
      exact h
  | setConfig id config =>
      exact h.editNode _ (fun _ => conforms_of_checkNode (fun node => { node with config })
        (fun _ => rfl) checked) performed
  | updateConfig id changes =>
      exact h.editNode _ (fun _ => conforms_of_checkNode (fun node => node.updated changes)
        (fun _ => rfl) checked) performed
  | setLabel id label =>
      -- A label is not checked; the node conformed before and has its old type and values.
      exact h.editNode (fun node => { node with label })
        (fun node found => h node (Pipeline.mem_nodeList.mpr ⟨id, found⟩)) performed
  | rename name =>
      cases performed
      exact h

end Edit

namespace Validation

variable {p : Pipeline} {c : Catalog} {node : Node} {type : NodeType}

theorem valueFinding?_eq_none {name : String} {value : ConfigValue} :
    valueFinding? node type name value = none ↔ type.Admits name value := by
  unfold valueFinding? NodeType.Admits
  cases type.field? name with
  | none => simp
  | some field => cases value.isBlank <;> simp

theorem fits_of_fieldFindings (clean : fieldFindings node type = []) : node.Fits type := by
  intro name value found
  have values := (List.append_eq_nil_iff.mp clean).2
  rw [List.filterMap_eq_nil_iff] at values
  exact valueFinding?_eq_none.mp (values (name, value) (SortedMap.get?_eq_some_iff.mp found))

/-- A required field has no value, or the settings of the node cannot be made. -/
def IsGap (node : Node) (type : NodeType) (d : Diagnostic) : Prop :=
  (∃ field ∈ type.requiredFields, node.hasValue type field.name = false ∧
      d = missingField node field) ∨
    ∃ fault, Settings.project node type = .error fault ∧ d = badField node fault

theorem isGap_of_fits (fits : node.Fits type) {d : Diagnostic}
    (found : d ∈ requiredConfigOf node type) : IsGap node type d := by
  have missing : ∀ d ∈ fieldFindings node type, IsGap node type d := by
    intro d member
    rcases List.mem_append.mp member with missing | bad
    · obtain ⟨field, absent, rfl⟩ := List.mem_map.mp missing
      obtain ⟨required, absent⟩ := List.mem_filter.mp absent
      exact .inl ⟨field, required, by simpa using absent, rfl⟩
    · obtain ⟨⟨name, value⟩, entry, bad⟩ := List.mem_filterMap.mp bad
      have admitted := fits name value (SortedMap.get?_eq_some_iff.mpr entry)
      cases (valueFinding?_eq_none.mpr admitted).symm.trans bad
  unfold requiredConfigOf at found
  split at found
  next =>
    split at found
    next => cases found
    next fault failed =>
      exact .inr ⟨fault, failed, List.mem_singleton.mp found⟩
  next => exact missing d found

theorem typeExistence_of_conforms (h : p.Conforms c) : typeExistence p c = [] := by
  rw [typeExistence, List.map_eq_nil_iff, List.filter_eq_nil_iff]
  intro node visited
  obtain ⟨type, registered, _⟩ := h node visited
  simp [Catalog.contains, SortedMap.contains_of_get? registered]

theorem acyclicity_of_acyclic (h : p.WellFormed) (acyclic : p.Acyclic) : acyclicity p = [] := by
  obtain ⟨ids, ordered⟩ := Pipeline.exists_order_of_acyclic h acyclic
  simp [acyclicity, ordered]

theorem exists_isGap_of_conforms (h : p.Conforms c) {d : Diagnostic}
    (found : d ∈ requiredConfig p c) :
    ∃ node ∈ p.nodeList, ∃ type, c.get? node.type = some type ∧ IsGap node type d := by
  obtain ⟨⟨node, type⟩, resolved, found⟩ := List.mem_flatMap.mp found
  obtain ⟨visited, registered⟩ := mem_resolved.mp resolved
  obtain ⟨other, same, fits⟩ := h node visited
  obtain rfl := Option.some.inj (registered.symm.trans same)
  exact ⟨node, visited, type, registered, isGap_of_fits fits found⟩

end Validation

end Etl
