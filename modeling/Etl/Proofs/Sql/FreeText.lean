import Etl.Proofs.Generation
import Etl.Proofs.Sql.Lines

/-!
Free text stays in comments. Names and labels, connections, and what a quality check measures stand
in no statement, and no part of a script that is a statement depends on them: neither the order of
the nodes nor the names of their relations nor the settings that statements are made of.
-/

namespace Etl

open Results

/-- Fields whose values are for readers of the script only: connections, and the column and the
expression of a quality check. -/
def IsFreeText (c : Catalog) (type field : String) : Prop :=
  field = "connection" ∨ ((field = "column" ∨ field = "expression") ∧
    ∃ t, c.get? type = some t ∧ t.category = .qualityCheck)

/-- Nodes that differ in their labels and in free text at most. -/
structure Node.SameButText (c : Catalog) (a b : Node) : Prop where
  id : a.id = b.id
  type : a.type = b.type
  config : ∀ field, ¬ IsFreeText c a.type field → a.config.get? field = b.config.get? field

/-- Pipelines with such nodes and the same edges; their own names and identifiers may differ. -/
structure Pipeline.SameButText (c : Catalog) (p q : Pipeline) : Prop where
  nodes : List.Forall₂ (Node.SameButText c) p.nodeList q.nodeList
  edges : p.edges = q.edges

namespace Node.SameButText

variable {c : Catalog} {a b : Node} {type : NodeType} (alike : a.SameButText c b)

include alike

theorem agrees {field : String} (bound : ¬ IsFreeText c a.type field) :
    Settings.Source.Agrees ⟨a, type⟩ ⟨b, type⟩ field := by
  rw [Settings.Source.Agrees, effective?, effective?, alike.config field bound]

theorem agrees_of_category (registered : c.get? a.type = some type)
    (other : type.category ≠ .qualityCheck) (field : String) (ne : field ≠ "connection") :
    Settings.Source.Agrees ⟨a, type⟩ ⟨b, type⟩ field := by
  apply alike.agrees
  rintro (connection | ⟨_, t, found, check⟩)
  · exact ne connection
  · rw [registered] at found
    cases found
    exact other check

end Node.SameButText

namespace Pipeline.SameButText

variable {c : Catalog} {p q : Pipeline} (alike : p.SameButText c q)

include alike

theorem sameGraph (hp : p.WellFormed) (hq : q.WellFormed) : p.SameGraph q :=
  .of_nodes hp hq (fun _ _ => Node.SameButText.id) alike.nodes alike.edges

theorem node (hp : p.WellFormed) (hq : q.WellFormed) {id : NodeId} {a b : Node}
    (left : p.node? id = some a) (right : q.node? id = some b) : a.SameButText c b :=
  related_of_node? hp hq (fun _ _ => Node.SameButText.id) alike.nodes left right

/-- The fields that name tables and topics are not free. -/
theorem externalNames_eq : Sql.externalNames p = Sql.externalNames q := by
  refine flatMap_eq_of_forall₂ alike.nodes fun a b same => ?_
  refine List.filterMap_congr fun field listed => ?_
  have bound : ¬ IsFreeText c a.type field := by
    rcases List.mem_pair.mp listed with rfl | rfl <;> simp [IsFreeText]
  rw [same.config field bound]

theorem relationNames_eq (hp : p.WellFormed) (hq : q.WellFormed) :
    Sql.relationNames p = Sql.relationNames q := by
  rw [Sql.relationNames, Sql.relationNames, alike.externalNames_eq, (alike.sameGraph hp hq).keys]

theorem inputsOf_eq (hp : p.WellFormed) (hq : q.WellFormed) :
    Sql.inputsOf p = Sql.inputsOf q := by
  funext id
  rw [Sql.inputsOf, Sql.inputsOf, (alike.sameGraph hp hq).predecessors_eq hp hq,
    alike.relationNames_eq hp hq]

end Pipeline.SameButText

namespace Sql

section Settings

open Settings

/-- The query of a source, read from the fields without the connection. -/
def readQuery (s : Source) : Except ConfigFault Query := do
  if s.has "path" then
    return .file (← s.text "path")
  else if s.has "topic" then
    return .stream (← s.text "topic")
  else
    return .table (← s.text? "schema") (← s.text "table")

theorem readQuery_of_ofSource {s : Source} {settings : SourceSettings}
    (made : ofSource s = .ok settings) : readQuery s = .ok (Query.ofSource settings) := by
  have made := ofSource_eq_ok.mp made
  cases settings with
  | file path format =>
      obtain ⟨isFile, given, _⟩ := made
      rw [readQuery, if_pos isFile, given]
      rfl
  | stream connection topic =>
      obtain ⟨noFile, isStream, _, _, given, _⟩ := made
      rw [readQuery, if_neg (by simp [noFile]), if_pos isStream, given]
      rfl
  | table connection schema table =>
      obtain ⟨noFile, noStream, _, _, inSchema, given, _⟩ := made
      rw [readQuery, if_neg (by simp [noFile]), if_neg (by simp [noStream]), inSchema, given]
      rfl

theorem readQuery_agrees {s t : Source}
    (same : ∀ field, field ≠ "connection" → s.Agrees t field) : readQuery s = readQuery t := by
  have path := same "path" (by decide)
  have topic := same "topic" (by decide)
  have schema := same "schema" (by decide)
  have table := same "table" (by decide)
  rw [readQuery, readQuery, path.has_eq, path.text_eq, topic.has_eq, topic.text_eq,
    schema.text?_eq, table.text_eq]

end Settings

/-- The comments of two blocks may differ, but not in their number, and their statements are equal
once they are written. -/
structure Block.SameButText (a b : Block) : Prop where
  comments : a.comments.length = b.comments.length
  render : a.statement.render = b.statement.render
  isView : a.statement.isView = b.statement.isView

variable {c : Catalog}

/-- How many comments a check has does not depend on what they say. -/
theorem length_checkComments (id : NodeId) (check : CheckSettings) (inputs : List String) :
    (checkComments id check inputs).length = 2 := rfl

theorem blockOf_sameButText {a b : Node} {type : NodeType} (alike : a.SameButText c b)
    (registered : c.get? a.type = some type) {s t : Settings}
    (left : Settings.project a type = .ok s) (right : Settings.project b type = .ok t)
    (name : String) (inputs : List String) :
    (blockOf a name inputs s).SameButText (blockOf b name inputs t) := by
  obtain ⟨category, made⟩ := Settings.project_eq_ok left
  obtain ⟨category', made'⟩ := Settings.project_eq_ok right
  have both : s.category = t.category := category.trans category'.symm
  have agrees (other : s.category ≠ .qualityCheck) :=
    alike.agrees_of_category registered (category ▸ other)
  cases s with
  | source s =>
      cases t with
      | source t =>
          have query : Query.ofSource s = Query.ofSource t := by
            have read := readQuery_of_ofSource made
            rw [readQuery_agrees (agrees (by rintro ⟨⟩)), readQuery_of_ofSource made'] at read
            exact (Except.ok.inj read).symm
          exact ⟨rfl, congrArg (fun query => (Statement.view name query).render) query, rfl⟩
      | transform | check | target => cases both
  | transform s =>
      cases t with
      | transform t =>
          rw [Settings.ofTransform_agrees (agrees (by rintro ⟨⟩)), made'] at made
          cases made
          exact ⟨rfl, rfl, rfl⟩
      | source | check | target => cases both
  | check s =>
      cases t with
      | check t => exact ⟨by simp only [blockOf, List.length_cons, length_checkComments], rfl, rfl⟩
      | source | transform | target => cases both
  | target s =>
      cases t with
      | target t =>
          have target := Settings.ofTarget_agrees (agrees (by rintro ⟨⟩)) made made'
          exact ⟨rfl, by rw [target]; rfl, rfl⟩
      | source | transform | check => cases both

theorem planNode_sameButText {p q : Pipeline} (alike : p.SameButText c q) (hp : p.WellFormed)
    (hq : q.WellFormed) {id : NodeId} {block block' : Block}
    (planned : planNode p c (relationNames p) id = .ok block)
    (planned' : planNode q c (relationNames q) id = .ok block') : block.SameButText block' := by
  obtain ⟨a, type, s, found, registered, projected, rfl⟩ := planNode_eq_ok.mp planned
  obtain ⟨b, type', t, found', registered', projected', rfl⟩ := planNode_eq_ok.mp planned'
  have same := alike.node hp hq found found'
  rw [← same.type, registered] at registered'
  cases registered'
  rw [alike.inputsOf_eq hp hq, alike.relationNames_eq hp hq]
  exact blockOf_sameButText same registered projected projected' _ _

theorem plan_sameButText {p q : Pipeline} (alike : p.SameButText c q) (hp : p.WellFormed)
    (hq : q.WellFormed) {script script' : Script} (planned : plan p c = .ok script)
    (planned' : plan q c = .ok script') :
    List.Forall₂ Block.SameButText script.blocks script'.blocks := by
  obtain ⟨ids, ordered, each⟩ := plan_eq_ok planned
  obtain ⟨ids', ordered', each'⟩ := plan_eq_ok planned'
  rw [← Pipeline.order_eq_of_sameGraph hp hq (alike.sameGraph hp hq), ordered] at ordered'
  cases ordered'
  refine forall₂_of_forall₂ (fun id block block' left right => ?_) each each'
  exact planNode_sameButText alike hp hq left right

section Lines

variable {breaks : List Char} (newline : '\n' ∈ breaks) (only : ∀ c ∈ breaks, c = '\r' ∨ c = '\n')

include newline

theorem Statement.sameButComments_render (s : Statement) :
    SameButComments breaks s.render s.render := by
  obtain ⟨body, ended⟩ := s.exists_render_eq
  rw [ended]
  exact .of_break newline body

include only

theorem sameButComments_comments {these those : List String}
    (lengths : these.length = those.length) :
    SameButComments breaks (String.join (these.map comment)) (String.join (those.map comment)) := by
  apply SameButComments.join
  rw [List.forall₂_map_left_iff, List.forall₂_map_right_iff]
  refine List.forall₂_iff_zip.mpr ⟨lengths, fun {a b} _ => ?_⟩
  exact ⟨_, _, whole_comment newline only a, whole_comment newline only b,
    .cons (.inr ⟨isComment_commentLine a, isComment_commentLine b⟩) .nil⟩

theorem Block.SameButText.sameButComments {a b : Block} (same : a.SameButText b) :
    SameButComments breaks ("\n" ++ a.render) ("\n" ++ b.render) := by
  have first : SameButComments breaks "\n" "\n" := .of_break newline ""
  have last := a.statement.sameButComments_render newline
  rw [Block.render, Block.render, ← same.render]
  exact first.append ((sameButComments_comments newline only same.comments).append last)

theorem Script.sameButComments_render {s t : Script}
    (comments : s.comments.length = t.comments.length)
    (blocks : List.Forall₂ Block.SameButText s.blocks t.blocks) :
    SameButComments breaks s.render t.render := by
  have sorted : List.Forall₂ Block.SameButText s.sorted t.sorted := by
    refine List.rel_append (List.rel_filter ?_ blocks) (List.rel_filter ?_ blocks)
    · exact fun a b same => by simp only [same.isView]
    · exact fun a b same => by simp only [same.isView]
  refine (sameButComments_comments newline only comments).append (.join ?_)
  rw [List.forall₂_map_left_iff, List.forall₂_map_right_iff]
  exact sorted.imp fun a b same => same.sameButComments newline only

end Lines

end Sql

namespace Compiler

/-- Free text cannot reach what is executed. The scripts of two pipelines that differ in free text
at most have equally many lines, of which each is the same in both or a comment in both, so that
without their comments they are equal; and a comment is one line whatever its text holds. -/
theorem executable_eq_of_sameButText (c : Compiler) {p q : Pipeline} (hp : p.Reachable)
    (hq : q.Reachable) (alike : p.SameButText c.catalog q) {a b : String}
    (left : c.generate p .sql = .ok a) (right : c.generate q .sql = .ok b) :
    ∀ breaks ∈ [['\n'], ['\n', '\r']],
      Sql.executable breaks a = Sql.executable breaks b ∧
        List.Forall₂ Sql.SameLine (Sql.lines breaks a) (Sql.lines breaks b) ∧
          ∀ text, ∃ line, Sql.isComment line ∧ Sql.lines breaks (Sql.comment text) = [line, []] := by
  intro breaks cuts
  have newline : '\n' ∈ breaks := by
    rcases List.mem_pair.mp cuts with rfl | rfl <;> simp
  have only : ∀ c ∈ breaks, c = '\r' ∨ c = '\n' := by
    rcases List.mem_pair.mp cuts with rfl | rfl <;> simp
  obtain ⟨script, planned, rfl⟩ := c.exists_plan_of_generate left
  obtain ⟨script', planned', rfl⟩ := c.exists_plan_of_generate right
  have blocks := Sql.plan_sameButText alike hp.wellFormed hq.wellFormed planned planned'
  have headers : script.comments.length = script'.comments.length := by
    rw [Sql.comments_of_plan planned, Sql.comments_of_plan planned']
    rfl
  have same := Sql.Script.sameButComments_render newline only headers blocks
  exact ⟨same.executable_eq, same.lines_forall₂, fun text => ⟨_, Sql.isComment_commentLine text,
    (Sql.whole_comment newline only text).lines_eq⟩⟩

end Compiler

/-- A check between a source and a target, with these texts. -/
def checkedOrders (name connection column : String) : Descriptor where
  id := "p"
  name := name
  nodes :=
    [⟨"a", "source-pg", name, .ofList [("connection", .text connection), ("table", .text "orders")]⟩,
     ⟨"b", "quality-check", name,
       .ofList [("rule", .text "completeness"), ("column", .text column)]⟩,
     ⟨"c", "target-pg", name,
       .ofList [("connection", .text connection), ("table", .text "daily")]⟩]
  edges := [⟨"a", "b"⟩, ⟨"b", "c"⟩]

theorem checkedOrders_nodes (name name' connection connection' column column' : String) :
    List.Forall₂ (Node.SameButText Catalog.standard) (checkedOrders name connection column).nodes
      (checkedOrders name' connection' column').nodes := by
  have check : ∃ t, Catalog.standard.get? "quality-check" = some t ∧
      t.category = .qualityCheck := ⟨_, rfl, rfl⟩
  refine .cons ⟨rfl, rfl, ?_⟩ (.cons ⟨rfl, rfl, ?_⟩ (.cons ⟨rfl, rfl, ?_⟩ .nil))
  · intro field bound
    have apart : field ≠ "connection" := fun same => bound (.inl same)
    simp [SortedMap.ofList, SortedMap.insertMany, SortedMap.get?_insert, apart]
  · intro field bound
    have apart : field ≠ "column" := fun same => bound (.inr ⟨.inl same, check⟩)
    simp [SortedMap.ofList, SortedMap.insertMany, SortedMap.get?_insert, apart]
  · intro field bound
    have apart : field ≠ "connection" := fun same => bound (.inl same)
    simp [SortedMap.ofList, SortedMap.insertMany, SortedMap.get?_insert, apart]

def plainOrders : Descriptor := checkedOrders "orders" "dwh" "amount"

/-- Texts that would end their comments if they could. -/
def hostileOrders : Descriptor :=
  checkedOrders "\nDROP TABLE t;\r--" "a\n-- b" "amount\r\nDELETE FROM t;\n"

theorem executable_eq_hostileOrders :
    let c : Compiler := ⟨Catalog.standard, default⟩
    ∃ p q a b, Pipeline.ofDescriptor plainOrders = .ok p ∧
      Pipeline.ofDescriptor hostileOrders = .ok q ∧ p.SameButText c.catalog q ∧
      c.generate p .sql = .ok a ∧ c.generate q .sql = .ok b ∧
      Sql.executable ['\n'] a = Sql.executable ['\n'] b := by
  intro c
  obtain ⟨p, built⟩ : ∃ p, Pipeline.ofDescriptor plainOrders = .ok p := ⟨_, rfl⟩
  obtain ⟨q, built'⟩ : ∃ q, Pipeline.ofDescriptor hostileOrders = .ok q := ⟨_, rfl⟩
  have hp : p.Reachable := .loaded built
  have hq : q.Reachable := .loaded built'
  obtain ⟨a, left⟩ : ∃ a, c.generate p .sql = .ok a := by
    apply c.exists_generate_of_clean hp.wellFormed
    cases built
    decide +kernel
  obtain ⟨b, right⟩ : ∃ b, c.generate q .sql = .ok b := by
    apply c.exists_generate_of_clean hq.wellFormed
    cases built'
    decide +kernel
  have nodes : p.nodeList = plainOrders.nodes ∧ q.nodeList = hostileOrders.nodes := by
    cases built
    cases built'
    exact ⟨rfl, rfl⟩
  have edges : p.edges = q.edges := by
    cases built
    cases built'
    rfl
  have alike : p.SameButText c.catalog q := by
    refine ⟨?_, edges⟩
    rw [nodes.1, nodes.2]
    exact checkedOrders_nodes ..
  exact ⟨p, q, a, b, built, built', alike, left, right,
    (c.executable_eq_of_sameButText hp hq alike left right _ List.mem_cons_self).1⟩

end Etl
