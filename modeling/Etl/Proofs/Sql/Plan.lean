import Etl.Proofs.Pipeline.Order
import Etl.Proofs.Pipeline.Reachable
import Etl.Proofs.Settings
import Etl.Sql.Script
import Etl.Validation.Checks

/-!
What a plan is made of. It has one block for each node in dependency order, and it is there as soon
as the nodes can be ordered, their types are registered and their settings can be made.
-/

namespace Etl

theorem Catalog.lookup_eq_ok {c : Catalog} {id : String} {type : NodeType} :
    c.lookup id = .ok type ↔ c.get? id = some type := by
  unfold lookup
  cases c.get? id <;> simp

namespace Sql

open Results

variable {p : Pipeline} {c : Catalog}

/-- The relations that a query reads by name. -/
def Query.inputs : Query → List String
  | .table .. | .file _ | .stream _ => []
  | .all inputs | .filter inputs _ | .aggregate inputs .. | .custom inputs _ => inputs

def Statement.inputs : Statement → List String
  | .view _ query => query.inputs
  | .write w => w.inputs

def Statement.viewName? : Statement → Option String
  | .view name _ => some name
  | .write _ => none

/-- The names of the relations of a node's predecessors. -/
def inputsOf (p : Pipeline) (id : NodeId) : List String :=
  (p.predecessors id).filterMap fun source => (relationNames p).lookup source

theorem planNode_eq_ok {id : NodeId} {block : Block} :
    planNode p c (relationNames p) id = .ok block ↔
      ∃ node type settings, p.node? id = some node ∧ c.get? node.type = some type ∧
        Settings.project node type = .ok settings ∧
        block = blockOf node (((relationNames p).lookup id).getD id) (inputsOf p id) settings := by
  simp only [planNode, bind_eq_ok, Pipeline.requireNode_eq_ok, Catalog.lookup_eq_ok,
    mapError_eq_ok]
  constructor
  · rintro ⟨node, found, type, registered, settings, projected, made⟩
    exact ⟨node, type, settings, found, registered, projected, (Except.ok.inj made).symm⟩
  · rintro ⟨node, type, settings, found, registered, projected, rfl⟩
    exact ⟨node, found, type, registered, settings, projected, rfl⟩

theorem plan_eq_ok {script : Script} (planned : plan p c = .ok script) :
    ∃ ids, p.order = .ok ids ∧
      List.Forall₂ (fun id block => planNode p c (relationNames p) id = .ok block) ids
        script.blocks := by
  obtain ⟨ids, ordered, rest⟩ := bind_eq_ok.mp planned
  obtain ⟨blocks, made, whole⟩ := bind_eq_ok.mp rest
  cases whole
  exact ⟨ids, ordered, mapM_eq_ok.mp made⟩

/-- Every block of a plan is that of some node. -/
theorem exists_planNode_of_mem {script : Script} (planned : plan p c = .ok script) {b : Block}
    (member : b ∈ script.blocks) : ∃ id, planNode p c (relationNames p) id = .ok b := by
  obtain ⟨ids, _, blocks⟩ := plan_eq_ok planned
  obtain ⟨id, _, made⟩ := exists_of_mem_forall₂ blocks member
  exact ⟨id, made⟩

theorem comments_of_plan {script : Script} (planned : plan p c = .ok script) :
    script.comments =
      ["Pipeline: " ++ p.name ++ " (" ++ p.id ++ ")", "Generated by pipewright. Do not edit."] := by
  obtain ⟨ids, _, rest⟩ := bind_eq_ok.mp planned
  obtain ⟨blocks, _, whole⟩ := bind_eq_ok.mp rest
  cases whole
  rfl

section Block

variable {id : NodeId} {block : Block} (h : p.WellFormed)
  (planned : planNode p c (relationNames p) id = .ok block)

include planned

/-- All nodes but targets become views. -/
theorem viewName?_of_planNode :
    block.statement.viewName? =
      if Validation.categoryOf p c id = some .target then none
      else some (((relationNames p).lookup id).getD id) := by
  obtain ⟨node, type, settings, found, registered, projected, rfl⟩ := planNode_eq_ok.mp planned
  obtain ⟨category, _⟩ := Settings.project_eq_ok projected
  simp only [Validation.categoryOf, found, registered, Option.bind_some, Option.map_some]
  cases settings <;> simp [← category, blockOf, Statement.viewName?, Settings.category]

/-- All nodes but sources read their predecessors. -/
theorem inputs_of_planNode (reads : Validation.categoryOf p c id ≠ some .source) :
    block.statement.inputs = inputsOf p id := by
  obtain ⟨node, type, settings, found, registered, projected, rfl⟩ := planNode_eq_ok.mp planned
  obtain ⟨category, _⟩ := Settings.project_eq_ok projected
  simp only [Validation.categoryOf, found, registered, Option.bind_some, Option.map_some] at reads
  cases settings with
  | source s => exact absurd (congrArg some category.symm) reads
  | transform t => cases t <;> rfl
  | check _ => rfl
  | target _ => rfl

include h in
theorem node_of_planNode : block.node = id := by
  obtain ⟨node, type, settings, found, -, -, rfl⟩ := planNode_eq_ok.mp planned
  have key : node.id = id := h.keyed found
  cases settings <;> exact key

end Block

theorem Statement.exists_eq_view {s : Statement} {name : String}
    (called : s.viewName? = some name) : ∃ query, s = .view name query := by
  cases s with
  | view own query =>
      obtain rfl := Option.some.inj called
      exact ⟨query, rfl⟩
  | write w => cases called

theorem Statement.exists_eq_write {s : Statement} (other : s.isView = false) :
    ∃ w, s = .write w := by
  cases s with
  | view => cases other
  | write w => exact ⟨w, rfl⟩

theorem isView_iff {s : Statement} : s.isView ↔ s.viewName? ≠ none := by
  cases s <;> simp [Statement.isView, Statement.viewName?]

theorem Script.mem_sorted {s : Script} {block : Block} : block ∈ s.sorted ↔ block ∈ s.blocks := by
  cases view : block.statement.isView <;> simp [sorted, view]

theorem exists_plan {ids : List NodeId} (ordered : p.order = .ok ids)
    (each : ∀ id ∈ ids, ∃ node type settings, p.requireNode id = .ok node ∧
      c.lookup node.type = .ok type ∧ Settings.project node type = .ok settings) :
    ∃ script, plan p c = .ok script := by
  obtain ⟨blocks, made⟩ := exists_mapM_eq_ok (f := planNode p c (relationNames p))
    fun id member => by
      obtain ⟨node, type, settings, found, registered, projected⟩ := each id member
      exact ⟨_, planNode_eq_ok.mpr ⟨node, type, settings, Pipeline.requireNode_eq_ok.mp found,
        Catalog.lookup_eq_ok.mp registered, projected, rfl⟩⟩
  exact ⟨_, bind_eq_ok.mpr ⟨ids, ordered, bind_eq_ok.mpr ⟨blocks, made, rfl⟩⟩⟩

end Sql

end Etl
