import Etl.Proofs.Generation
import Etl.Proofs.Sql.Relation

/-!
Which inputs a script defines before it reads them. Views stand in dependency order before all
writes, so a predecessor that becomes a view is there in time, in the script and in its text. A
target never becomes a view: what reads a target reads a relation that the script does not define.
-/

namespace Etl

namespace Sql

variable {p : Pipeline} {c : Catalog}

/-- A view of some name stands in front of a block. -/
def Script.DefinesBefore (s : Script) (name : String) (reader : Block) : Prop :=
  ∃ before view between after, s.sorted = before ++ view :: between ++ reader :: after ∧
    view.statement.viewName? = some name

/-- A view stays in front of the blocks behind it when the writes are put to the end. -/
theorem Script.definesBefore_of_blocks {s : Script} {before between after : List Block}
    {view reader : Block} {name : String}
    (split : s.blocks = before ++ view :: between ++ reader :: after)
    (named : view.statement.viewName? = some name) : s.DefinesBefore name reader := by
  have isView : view.statement.isView := isView_iff.mpr (by simp [named])
  cases reads : reader.statement.isView with
  | true =>
      refine ⟨before.filter (·.statement.isView), view, between.filter (·.statement.isView),
        after.filter (·.statement.isView) ++ s.blocks.filter fun b => !b.statement.isView, ?_,
        named⟩
      simp [sorted, split, isView, reads]
  | false =>
      refine ⟨before.filter (·.statement.isView), view,
        between.filter (·.statement.isView) ++ after.filter (·.statement.isView) ++
          (before.filter (fun b => !b.statement.isView) ++
            between.filter fun b => !b.statement.isView),
        after.filter fun b => !b.statement.isView, ?_, named⟩
      simp [sorted, split, isView, reads]

/-- The text of a block is the definition of a view of some name, behind comments. -/
def Block.Defines (b : Block) (name : String) : Prop :=
  ∃ query, b.render = String.join (b.comments.map comment) ++
    ("CREATE OR REPLACE TEMPORARY VIEW " ++ name ++ " AS\n" ++ query ++ ";\n")

theorem Block.defines_of_viewName? {b : Block} {name : String}
    (called : b.statement.viewName? = some name) : b.Defines name := by
  obtain ⟨query, statement⟩ := Statement.exists_eq_view called
  refine ⟨query.render, ?_⟩
  rw [render, statement]
  rfl

/-- What stands in front of a block stands above it in the text. -/
theorem Script.DefinesBefore.exists_render_eq {s : Script} {name : String} {reader : Block}
    (defined : s.DefinesBefore name reader) :
    ∃ front between back, ∃ view : Block, view.Defines name ∧
      s.render = front ++ "\n" ++ view.render ++ between ++ "\n" ++ reader.render ++ back := by
  obtain ⟨before, view, between, after, split, called⟩ := defined
  let text (blocks : List Block) : String := String.join (blocks.map fun b => "\n" ++ b.render)
  refine ⟨String.join (s.comments.map comment) ++ text before, text between, text after, view,
    Block.defines_of_viewName? called, ?_⟩
  rw [Script.render, split]
  simp only [text, List.map_append, List.map_cons, String.join_append, String.join_cons,
    String.append_assoc]

/-- A view has the name of one node only, and that node is not a target. -/
theorem categoryOf_ne_target_of_view {script : Script} (planned : plan p c = .ok script)
    {view : Block} {name : String} (member : view ∈ script.sorted)
    (called : view.statement.viewName? = some name) {source : NodeId}
    (named : (relationNames p).lookup source = some name) :
    Validation.categoryOf p c source ≠ some .target := by
  obtain ⟨key, made⟩ := exists_planNode_of_mem planned (Script.mem_sorted.mp member)
  have title := (viewName?_of_planNode made).symm.trans called
  split at title
  next => cases title
  next notTarget =>
    obtain ⟨_, type, _, found, -⟩ := planNode_eq_ok.mp made
    obtain ⟨own, looked⟩ := exists_relationName (SortedMap.contains_iff.mpr ⟨_, found⟩)
    rw [looked, Option.getD_some, Option.some.injEq] at title
    rw [title] at looked
    rw [← relationNames_injective looked named]
    exact notTarget

/-- The block of a node reads the relation of a predecessor, and the script defines that relation
in front of the block exactly when the predecessor is not a target. -/
theorem exists_reader {script : Script} (h : p.WellFormed) (planned : plan p c = .ok script)
    {id source : NodeId} (edge : source ∈ p.predecessors id)
    (reads : Validation.categoryOf p c id ≠ some .source) :
    ∃ name reader, (relationNames p).lookup source = some name ∧ reader ∈ script.sorted ∧
      reader.node = id ∧ name ∈ reader.statement.inputs ∧
      (script.DefinesBefore name reader ↔ Validation.categoryOf p c source ≠ some .target) := by
  obtain ⟨ids, ordered, blocks⟩ := plan_eq_ok planned
  obtain ⟨-, nodes, forward⟩ := Pipeline.order_eq_ok h ordered
  have ends := h.containsNode_of_mem_successors
    (h.mem_predecessors_iff_mem_successors.mp edge)
  obtain ⟨front, back, split⟩ := List.append_of_mem ((nodes id).mpr ends.2)
  obtain ⟨first, middle, rfl⟩ := List.append_of_mem (forward front id back split source edge)
  rw [split] at blocks
  obtain ⟨left, reader, after, both, earlier, mine, -⟩ := Results.forall₂_split blocks
  obtain ⟨before, view, between, rfl, -, theirs, -⟩ := Results.forall₂_split earlier
  obtain ⟨name, named⟩ := exists_relationName ends.1
  refine ⟨name, reader, named, Script.mem_sorted.mpr (by simp [both]), node_of_planNode h mine, ?_,
    ?_, ?_⟩
  · rw [inputs_of_planNode mine reads]
    exact List.mem_filterMap.mpr ⟨source, edge, named⟩
  · rintro ⟨_, other, _, _, whole, called⟩
    exact categoryOf_ne_target_of_view planned (by simp [whole]) called named
  · intro notTarget
    apply Script.definesBefore_of_blocks both
    rw [viewName?_of_planNode theirs, if_neg notTarget, named, Option.getD_some]

end Sql

namespace Compiler

variable (c : Compiler) {p : Pipeline}

/-- In a generated script every node but a source reads the relations of all its predecessors, and
such a relation is a view further up exactly when the predecessor is not a target. Nothing rejects
an edge that leaves a target, and the node behind it reads a relation that no view defines. -/
theorem definesBefore_iff_not_target (h : p.Reachable) {text : String}
    (generated : c.generate p .sql = .ok text) :
    ∃ script, Sql.plan p c.catalog = .ok script ∧ text = script.render ∧
      ∀ id source, source ∈ p.predecessors id →
        Validation.categoryOf p c.catalog id ≠ some .source →
        ∃ name reader, (Sql.relationNames p).lookup source = some name ∧
          reader ∈ script.sorted ∧ reader.node = id ∧ name ∈ reader.statement.inputs ∧
          (script.DefinesBefore name reader ↔
            Validation.categoryOf p c.catalog source ≠ some .target) := by
  obtain ⟨script, planned, rfl⟩ := c.exists_plan_of_generate generated
  exact ⟨script, planned, rfl, fun id source edge reads =>
    Sql.exists_reader h.wellFormed planned edge reads⟩

/-- In the text, the definition of a relation stands above what reads it, unless it is the relation
of a target. -/
theorem exists_definition_above (h : p.Reachable) {text : String}
    (generated : c.generate p .sql = .ok text) {id source : NodeId}
    (edge : source ∈ p.predecessors id) (reads : Validation.categoryOf p c.catalog id ≠ some .source)
    (other : Validation.categoryOf p c.catalog source ≠ some .target) :
    ∃ name front between back, ∃ view reader : Sql.Block,
      (Sql.relationNames p).lookup source = some name ∧ view.Defines name ∧ reader.node = id ∧
      name ∈ reader.statement.inputs ∧
      text = front ++ "\n" ++ view.render ++ between ++ "\n" ++ reader.render ++ back := by
  obtain ⟨script, planned, rfl⟩ := c.exists_plan_of_generate generated
  obtain ⟨name, reader, named, -, node, input, defined⟩ :=
    Sql.exists_reader h.wellFormed planned edge reads
  obtain ⟨front, between, back, view, defines, text⟩ := (defined.mpr other).exists_render_eq
  exact ⟨name, front, between, back, view, reader, named, defines, node, input, text⟩

/-- A table that is staged by one target and read by another. -/
def stagedTable : Descriptor where
  id := "p"
  name := "P"
  nodes :=
    [⟨"A", "source-pg", "", .ofList [("connection", .text "dwh"), ("table", .text "orders")]⟩,
     ⟨"B", "target-pg", "", .ofList [("connection", .text "dwh"), ("table", .text "stage")]⟩,
     ⟨"C", "target-pg", "", .ofList [("connection", .text "dwh"), ("table", .text "daily")]⟩]
  edges := [⟨"A", "B"⟩, ⟨"B", "C"⟩]

theorem not_definesBefore_stagedTable :
    let c : Compiler := ⟨Catalog.standard, default⟩
    ∃ p text script reader, Pipeline.ofDescriptor stagedTable = .ok p ∧
      c.generate p .sql = .ok text ∧ Sql.plan p c.catalog = .ok script ∧ text = script.render ∧
      reader ∈ script.sorted ∧ reader.node = "C" ∧ "pw_B" ∈ reader.statement.inputs ∧
      ¬ script.DefinesBefore "pw_B" reader := by
  intro c
  obtain ⟨p, built⟩ : ∃ p, Pipeline.ofDescriptor stagedTable = .ok p := ⟨_, rfl⟩
  have h : p.Reachable := .loaded built
  obtain ⟨text, generated⟩ : ∃ text, c.generate p .sql = .ok text := by
    refine c.exists_generate_of_clean h.wellFormed ?_ .sql
    cases built
    decide +kernel
  obtain ⟨script, planned, rendered, each⟩ := c.definesBefore_iff_not_target h generated
  have facts : "B" ∈ p.predecessors "C" ∧
      Validation.categoryOf p c.catalog "C" ≠ some .source ∧
      Validation.categoryOf p c.catalog "B" = some .target ∧
      (Sql.relationNames p).lookup "B" = some "pw_B" := by
    cases built
    decide +kernel
  obtain ⟨edge, reads, target, called⟩ := facts
  obtain ⟨name, reader, named, member, node, input, defined⟩ := each "C" "B" edge reads
  obtain rfl := Option.some.inj (called.symm.trans named)
  exact ⟨p, text, script, reader, built, generated, planned, rendered, member, node, input,
    fun before => defined.mp before target⟩

end Compiler

end Etl
