import Etl.Proofs.Generation
import Etl.Proofs.Pipeline.Cycle
import Etl.Proofs.Sql.Clause
import Etl.Proofs.Sql.Lines
import Etl.Proofs.Validation.Connectivity

/-!
How a script is laid out. Every node has one block: a view under the name of its relation, or a
write where it is a target. A block is the lines of its comments and then its statement, clause by
clause. Views stand in front of writes and what is read in front of what reads it, and no input of a
node is left out, repeated or out of order in the text that reads it.
-/

namespace Etl

open Relation

namespace Sql

variable {p : Pipeline} {c : Catalog}

/-- The word with which a write turns to its table. -/
def Write.verb (w : Write) : String :=
  match w.target.strategy with
  | .append | .upsert => "INSERT INTO "
  | .overwrite => "TRUNCATE TABLE "
  | .merge => "MERGE INTO "

theorem Write.exists_render_eq_verb (w : Write) :
    ∃ rest, w.render = w.verb ++ w.table ++ rest := by
  unfold render verb insertion
  cases w.target.strategy with
  | append | overwrite | merge | upsert =>
      simp only [String.append_assoc]
      exact ⟨_, rfl⟩

/-- The lines of a block: one for each comment, and those of its clauses with the semicolon. -/
def Block.lines (b : Block) : List (List Char) :=
  b.comments.map commentLine ++ Sql.lines ['\n'] (Clause.join b.statement.clauses ++ ";")

/-- The text of a block. Its comments come first, each on one line, and the first of them begins
with the node. Behind them stands the statement: its clauses, with something behind each keyword,
and a semicolon. -/
structure Block.Written (b : Block) : Prop where
  titled : ∃ title others, b.comments = (b.node ++ ": " ++ title) :: others
  text : b.render =
    String.join (b.comments.map fun text => String.ofList (commentLine text) ++ "\n") ++
      b.statement.render
  statement : b.statement.render = Clause.join b.statement.clauses ++ ";\n"
  filled : ∀ k ∈ b.statement.clauses, k.Filled

/-- Where the statement of a block has one relation to read from, it reads those of all nodes that
lead to its own: at least one, each once, and in the order of the nodes. -/
def Block.ReadsAll (p : Pipeline) (c : Catalog) (b : Block) : Prop :=
  ∃ node type settings, p.node? b.node = some node ∧ c.get? node.type = some type ∧
    Settings.project node type = .ok settings ∧
      (settings.HasItem → ∃ sources names, b.statement.ReadsFrom names ∧
        List.Forall₂ (fun source name => (relationNames p).lookup source = some name) sources
          names ∧
        sources ≠ [] ∧ sources.Pairwise (fun a b => compare a b = .lt) ∧
        (∀ source, source ∈ sources ↔ p.Joined source b.node) ∧
        names.Pairwise fun a b => ¬ SameName a b)

/-- The text of a script in terms of the pipeline: which blocks it has, in which order, how they are
written, and what they read. -/
structure Layout (p : Pipeline) (c : Catalog) (text : String) (views writes : List Block) :
    Prop where
  written : text =
    comment ("Pipeline: " ++ p.name ++ " (" ++ p.id ++ ")") ++
      comment "Generated by pipewright. Do not edit." ++
      String.join ((views ++ writes).map fun b => "\n" ++ b.render)
  /-- Two comments, and then each block behind an empty line. -/
  lines : Sql.lines ['\n'] text =
    commentLine ("Pipeline: " ++ p.name ++ " (" ++ p.id ++ ")") ::
      commentLine "Generated by pipewright. Do not edit." ::
      ((views ++ writes).flatMap fun b => [] :: b.lines) ++ [[]]
  block : ∀ b ∈ views ++ writes, b.Written
  nodup : ((views ++ writes).map (·.node)).Nodup
  nodes : ∀ id, id ∈ (views ++ writes).map (·.node) ↔ p.containsNode id
  viewed : ∀ id, id ∈ views.map (·.node) ↔
    ∃ category, category ≠ .target ∧ Validation.categoryOf p c id = some category
  stored : ∀ id, id ∈ writes.map (·.node) ↔ Validation.categoryOf p c id = some .target
  view : ∀ b ∈ views, ∃ name query, b.statement = .view name query ∧
    (relationNames p).lookup b.node = some name ∧
    b.statement.render =
      "CREATE OR REPLACE TEMPORARY VIEW " ++ name ++ " AS\n" ++ query.render ++ ";\n"
  own : ∀ {a b x y}, (relationNames p).lookup a = some x → (relationNames p).lookup b = some y →
    SameName x y → a = b
  write : ∀ b ∈ writes, ∃ w rest, b.statement = .write w ∧
    b.statement.render = w.verb ++ w.table ++ rest
  ahead : ∀ group ∈ [views, writes], ∀ a ∈ group, ∀ b ∈ group,
    TransGen p.Joined a.node b.node → group.idxOf a < group.idxOf b
  reads : ∀ b ∈ views ++ writes, b.ReadsAll p c

theorem Block.whole (b : Block) : Whole ['\n'] b.render b.lines := by
  have newline : '\n' ∈ ['\n'] := List.mem_singleton_self _
  have comments := whole_comments newline (by simp) b.comments
  have ended : b.statement.render = Clause.join b.statement.clauses ++ ";" ++ "\n" := by
    rw [b.statement.render_eq, String.append_assoc]
    rfl
  rw [render, ended]
  exact comments.append (.of_break newline _)

theorem Script.whole (s : Script) : Whole ['\n'] s.render
    (s.comments.map commentLine ++ s.sorted.flatMap fun b => [] :: b.lines) := by
  have newline : '\n' ∈ ['\n'] := List.mem_singleton_self _
  have empty : Whole ['\n'] "\n" [[]] := .of_break newline ""
  have blocks : Whole ['\n'] (String.join (s.sorted.map fun b => "\n" ++ b.render))
      (s.sorted.map fun b => [] :: b.lines).flatten := by
    apply Whole.join
    rw [List.forall₂_map_left_iff, List.forall₂_map_right_iff, List.forall₂_same]
    exact fun b _ => empty.append b.whole
  exact (whole_comments newline (by simp) s.comments).append blocks

theorem Script.sorted_perm (s : Script) : s.sorted.Perm s.blocks := List.filter_append_perm _ _

section Plan

variable (h : p.WellFormed) {script : Script} (planned : plan p c = .ok script)

include h planned

/-- The blocks of a plan stand in the order of the nodes. -/
theorem order_eq_of_plan : p.order = .ok (script.blocks.map (·.node)) := by
  obtain ⟨ids, ordered, blocks⟩ := plan_eq_ok planned
  have same : List.Forall₂ (· = ·) ids (script.blocks.map (·.node)) :=
    List.forall₂_map_right_iff.mpr (blocks.imp fun id b made => (node_of_planNode h made).symm)
  rw [List.forall₂_eq_eq_eq] at same
  rw [ordered, same]

theorem planNode_of_mem {b : Block} (member : b ∈ script.blocks) :
    planNode p c (relationNames p) b.node = .ok b := by
  obtain ⟨id, made⟩ := exists_planNode_of_mem planned member
  rw [node_of_planNode h made]
  exact made

theorem exists_block {id : NodeId} (present : p.containsNode id) :
    ∃ b ∈ script.blocks, b.node = id := by
  obtain ⟨-, nodes, -⟩ := Pipeline.order_eq_ok h (order_eq_of_plan h planned)
  exact List.mem_map.mp ((nodes id).mpr present)

/-- Blocks that are views are those of the nodes that are no targets. -/
theorem isView_iff_of_mem {b : Block} (member : b ∈ script.blocks) :
    b.statement.isView ↔ Validation.categoryOf p c b.node ≠ some .target := by
  rw [isView_iff, viewName?_of_planNode (planNode_of_mem h planned member)]
  split <;> simp [*]

theorem categoryOf_of_mem {b : Block} (member : b ∈ script.blocks) :
    ∃ category, Validation.categoryOf p c b.node = some category := by
  obtain ⟨node, type, _, found, registered, -⟩ :=
    planNode_eq_ok.mp (planNode_of_mem h planned member)
  exact ⟨_, Validation.categoryOf_eq_some.mpr ⟨node, type, found, registered, rfl⟩⟩

theorem mem_views_iff {id : NodeId} :
    id ∈ (script.blocks.filter (·.statement.isView)).map (·.node) ↔
      ∃ category, category ≠ .target ∧ Validation.categoryOf p c id = some category := by
  simp only [List.mem_map, List.mem_filter]
  constructor
  · rintro ⟨b, ⟨member, view⟩, rfl⟩
    obtain ⟨category, known⟩ := categoryOf_of_mem h planned member
    refine ⟨category, ?_, known⟩
    rintro rfl
    exact (isView_iff_of_mem h planned member).mp view known
  · rintro ⟨category, other, known⟩
    obtain ⟨node, _, found, -⟩ := Validation.categoryOf_eq_some.mp known
    obtain ⟨b, member, rfl⟩ := exists_block h planned (Pipeline.containsNode_iff.mpr ⟨node, found⟩)
    refine ⟨b, ⟨member, (isView_iff_of_mem h planned member).mpr ?_⟩, rfl⟩
    rw [known]
    exact fun same => other (Option.some.inj same)

theorem mem_writes_iff {id : NodeId} :
    id ∈ (script.blocks.filter fun b => !b.statement.isView).map (·.node) ↔
      Validation.categoryOf p c id = some .target := by
  simp only [List.mem_map, List.mem_filter, Bool.not_eq_true']
  constructor
  · rintro ⟨b, ⟨member, other⟩, rfl⟩
    exact not_not.mp ((isView_iff_of_mem h planned member).not.mp (by simp [other]))
  · intro target
    obtain ⟨node, _, found, -⟩ := Validation.categoryOf_eq_some.mp target
    obtain ⟨b, member, rfl⟩ := exists_block h planned (Pipeline.containsNode_iff.mpr ⟨node, found⟩)
    refine ⟨b, ⟨member, Bool.eq_false_iff.mpr fun view => ?_⟩, rfl⟩
    exact (isView_iff_of_mem h planned member).mp view target

theorem view_of_mem {b : Block} (member : b ∈ script.blocks) (view : b.statement.isView) :
    ∃ name query, b.statement = .view name query ∧
      (relationNames p).lookup b.node = some name := by
  have made := planNode_of_mem h planned member
  obtain ⟨_, _, _, found, -⟩ := planNode_eq_ok.mp made
  obtain ⟨own, looked⟩ := exists_relationName (SortedMap.contains_iff.mpr ⟨_, found⟩)
  have title := viewName?_of_planNode made
  rw [if_neg ((isView_iff_of_mem h planned member).mp view), looked, Option.getD_some] at title
  obtain ⟨query, statement⟩ := Statement.exists_eq_view title
  exact ⟨own, query, statement, looked⟩

theorem written_of_mem {b : Block} (member : b ∈ script.blocks) : b.Written where
  titled := by
    obtain ⟨node, _, settings, _, _, _, whole⟩ :=
      planNode_eq_ok.mp (planNode_of_mem h planned member)
    rw [whole]
    cases settings <;> simp only [blockOf, String.append_assoc] <;> exact ⟨_, _, rfl⟩
  text := by rw [Block.render, funext comment_eq]
  statement := b.statement.render_eq
  filled := filled_of_plan planned b member

/-- No block stands in front of one whose node leads to its own. -/
theorem pairwise_of_plan :
    script.blocks.Pairwise fun a b => ¬ TransGen p.Joined b.node a.node := by
  have ordered := Pipeline.pairwise_of_order_eq_ok h (order_eq_of_plan h planned)
  rw [Pipeline.follows_eq_joined h] at ordered
  exact List.pairwise_map.mp ordered

/-- A part of the blocks keeps their order. -/
theorem idxOf_lt_of_sublist {group : List Block} (part : group.Sublist script.blocks) {a b : Block}
    (first : a ∈ group) (second : b ∈ group) (leads : TransGen p.Joined a.node b.node) :
    group.idxOf a < group.idxOf b := by
  have inside := (pairwise_of_plan h planned).sublist part
  rcases Nat.lt_trichotomy (group.idxOf a) (group.idxOf b) with less | equal | greater
  · exact less
  · rw [(List.idxOf_inj first).mp equal, ← Pipeline.follows_eq_joined h] at leads
    have founded := Pipeline.follows_wellFounded h (order_eq_of_plan h planned)
    exact absurd leads (founded.transGen.irrefl.irrefl b.node)
  · have late := List.pairwise_iff_getElem.mp inside _ _ (List.idxOf_lt_length_of_mem second)
      (List.idxOf_lt_length_of_mem first) greater
    rw [List.getElem_idxOf, List.getElem_idxOf] at late
    exact absurd leads late

end Plan

theorem pairwise_not_sameName {sources : List NodeId} {names : List String}
    (named : List.Forall₂ (fun source name => (relationNames p).lookup source = some name) sources
      names) (distinct : sources.Nodup) : names.Pairwise fun a b => ¬ SameName a b := by
  induction named with
  | nil => exact .nil
  | cons first rest ih =>
      obtain ⟨fresh, distinct⟩ := List.nodup_cons.mp distinct
      refine .cons (fun other member same => ?_) (ih distinct)
      obtain ⟨source, again, second⟩ := Results.exists_of_mem_forall₂ rest member
      rw [eq_of_sameName first second same] at fresh
      exact fresh again

theorem exists_predecessor_of_hasItem {v : Validator} (h : p.WellFormed)
    (deployable : (v.validate p c).isDeployable) {id : NodeId} {node : Node} {type : NodeType}
    {settings : Settings} (found : p.node? id = some node)
    (registered : c.get? node.type = some type)
    (projected : Settings.project node type = .ok settings) (has : settings.HasItem) :
    p.predecessors id ≠ [] := by
  obtain ⟨category, -⟩ := Settings.project_eq_ok projected
  have known := Validation.categoryOf_eq_some.mpr ⟨node, type, found, registered, rfl⟩
  obtain ⟨previous, edge⟩ :=
    exists_predecessor_of_deployable h deployable known (category ▸ has.1)
  exact List.ne_nil_of_mem (h.mem_predecessors_iff_mem_successors.mpr edge)

theorem readsAll_of_mem {v : Validator} (h : p.WellFormed)
    (deployable : (v.validate p c).isDeployable) {script : Script}
    (planned : plan p c = .ok script) {b : Block} (member : b ∈ script.blocks) :
    b.ReadsAll p c := by
  obtain ⟨node, type, settings, found, registered, projected, made⟩ :=
    planNode_eq_ok.mp (planNode_of_mem h planned member)
  refine ⟨node, type, settings, found, registered, projected, fun has => ?_⟩
  have reads := readsFrom_blockOf node (((relationNames p).lookup b.node).getD b.node) has
    fun name (input : name ∈ inputsOf p b.node) => isRelationName_of_mem_inputsOf input
  rw [← made] at reads
  have named := forall₂_inputsOf h b.node
  exact ⟨p.predecessors b.node, inputsOf p b.node, reads, named,
    exists_predecessor_of_hasItem h deployable found registered projected has,
    p.predecessors_pairwise b.node, fun source => h.mem_predecessors_iff,
    pairwise_not_sameName named (p.predecessors_nodup b.node)⟩

end Sql

namespace Compiler

open Sql

/-- A generated script has two comment lines, and then one block for each node: all views before all
writes, in each group a node before those it leads to, and in each block the names of all
predecessors where it reads them. -/
theorem generate_layout (c : Compiler) {p : Pipeline} (h : p.Reachable) {text : String}
    (generated : c.generate p .sql = .ok text) :
    ∃ views writes, Layout p c.catalog text views writes := by
  obtain ⟨script, planned, rfl⟩ := c.exists_plan_of_generate generated
  have sound := h.wellFormed
  obtain ⟨distinct, nodes, -⟩ := Pipeline.order_eq_ok sound (order_eq_of_plan sound planned)
  have same := script.sorted_perm.map (·.node)
  have comments := comments_of_plan planned
  refine ⟨script.blocks.filter (·.statement.isView),
    script.blocks.filter fun b => !b.statement.isView, ?_⟩
  constructor
  case written => simp [Script.render, comments, Script.sorted, String.join_cons]
  case lines =>
    have lines := script.whole.lines_eq
    rw [comments] at lines
    exact lines
  case block => exact fun b member => written_of_mem sound planned (Script.mem_sorted.mp member)
  case nodup => exact same.nodup_iff.mpr distinct
  case nodes => exact fun id => same.mem_iff.trans (nodes id)
  case viewed => exact fun id => mem_views_iff sound planned
  case stored => exact fun id => mem_writes_iff sound planned
  case view =>
    intro b member
    obtain ⟨member, view⟩ := List.mem_filter.mp member
    obtain ⟨name, query, statement, looked⟩ := view_of_mem sound planned member view
    refine ⟨name, query, statement, looked, ?_⟩
    rw [statement]
    rfl
  case own => exact eq_of_sameName
  case write =>
    intro b member
    obtain ⟨w, statement⟩ := Statement.exists_eq_write (by simpa using (List.mem_filter.mp member).2)
    obtain ⟨rest, text⟩ := w.exists_render_eq_verb
    refine ⟨w, rest, statement, ?_⟩
    rw [statement]
    exact text
  case ahead =>
    intro group member a first b second
    have part : group.Sublist script.blocks := by
      rcases List.mem_pair.mp member with rfl | rfl
      · exact List.filter_sublist
      · exact List.filter_sublist
    exact idxOf_lt_of_sublist sound planned part first second
  case reads =>
    have deployable := c.isDeployable_of_generate generated
    exact fun b member => readsAll_of_mem sound deployable planned (Script.mem_sorted.mp member)

/-- The script of two sources that one filter unites. -/
def unitedText : String :=
  "-- Pipeline:  (p)\n-- Generated by pipewright. Do not edit.\n" ++
    "\n-- a: a [source-pg]\nCREATE OR REPLACE TEMPORARY VIEW pw_a AS\nSELECT * FROM orders;\n" ++
    "\n-- b: b [source-pg]\nCREATE OR REPLACE TEMPORARY VIEW pw_b AS\nSELECT * FROM returns;\n" ++
    "\n-- c: c [transform-filter]\nCREATE OR REPLACE TEMPORARY VIEW pw_c AS\n" ++
    "SELECT * FROM (SELECT * FROM pw_a UNION ALL SELECT * FROM pw_b) AS input " ++
    "WHERE amount > 0;\n" ++
    "\n-- d: d [quality-check]\n" ++
    "-- check d: completeness on amount must pass >= 100% (mode: warn)\n" ++
    "-- metric: SELECT 100.0 * COUNT(amount) / NULLIF(COUNT(*), 0) AS pass_rate FROM pw_c;\n" ++
    "CREATE OR REPLACE TEMPORARY VIEW pw_d AS\nSELECT * FROM pw_c;\n" ++
    "\n-- e: e [target-pg] append via dwh\nINSERT INTO daily\nSELECT * FROM pw_d;\n"

/-- The filter is a view that reads both sources, and it stands as a view in the text. -/
theorem generate_layout_unitedSources :
    let c : Compiler := ⟨Catalog.standard, default⟩
    ∃ p views writes b query, Pipeline.ofDescriptor unitedSources = .ok p ∧
      c.generate p .sql = .ok unitedText ∧ Layout p c.catalog unitedText views writes ∧
      b ∈ views ∧ b.node = "c" ∧ "pw_a" ∈ relationsIn b.statement.item ∧
      "pw_b" ∈ relationsIn b.statement.item ∧
      b.render =
        String.join (b.comments.map fun text => String.ofList (commentLine text) ++ "\n") ++
          ("CREATE OR REPLACE TEMPORARY VIEW pw_c AS\n" ++ query ++ ";\n") := by
  intro c
  obtain ⟨p, built⟩ : ∃ p, Pipeline.ofDescriptor unitedSources = .ok p := ⟨_, rfl⟩
  have generated : c.generate p .sql = .ok unitedText := by
    rw [← Results.toOption_eq_some]
    cases built
    decide +kernel
  obtain ⟨views, writes, layout⟩ := c.generate_layout (.loaded built) generated
  have facts : p.edges.contains ⟨"a", "c"⟩ ∧ p.edges.contains ⟨"b", "c"⟩ ∧
      Validation.categoryOf p c.catalog "c" = some .transform ∧
      (relationNames p).lookup "a" = some "pw_a" ∧ (relationNames p).lookup "b" = some "pw_b" ∧
      (relationNames p).lookup "c" = some "pw_c" ∧
      ((p.node? "c").bind fun node => (c.catalog.get? node.type).bind fun type =>
        (Settings.project node type).toOption) = some (.transform (.filter "amount > 0")) := by
    cases built
    decide +kernel
  obtain ⟨left, right, category, first, second, own, filter⟩ := facts
  obtain ⟨b, inside, key⟩ :=
    List.mem_map.mp ((layout.viewed "c").mpr ⟨.transform, by decide, category⟩)
  have member : b ∈ views ++ writes := List.mem_append_left writes inside
  obtain ⟨name, query, -, looked, text⟩ := layout.view b inside
  rw [key, own] at looked
  obtain rfl := Option.some.inj looked
  obtain ⟨node, type, settings, found, registered, projected, reads⟩ := layout.reads b member
  rw [key] at found reads
  have same : settings = .transform (.filter "amount > 0") := by
    rw [found, Option.bind_some, registered, Option.bind_some, projected] at filter
    exact Option.some.inj filter
  have has : settings.HasItem := by
    rw [same]
    exact ⟨by decide, by simp⟩
  obtain ⟨sources, names, item, named, -, -, joined, -⟩ := reads has
  have mentioned {source : NodeId} {name : String} (edge : p.Joined source "c")
      (called : (relationNames p).lookup source = some name) :
      name ∈ relationsIn b.statement.item := by
    obtain ⟨other, inside, again⟩ :=
      Results.exists_of_mem_forall₂ named.flip ((joined source).mpr edge)
    rw [item.names, Option.some.inj (called.symm.trans again)]
    exact inside
  have whole := (layout.block b member).text
  rw [text] at whole
  exact ⟨p, views, writes, b, query.render, built, generated, layout, inside, key,
    mentioned left first, mentioned right second, whole⟩

end Compiler

end Etl
