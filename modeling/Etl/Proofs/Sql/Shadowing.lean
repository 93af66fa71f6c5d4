import Etl.Proofs.Generation
import Etl.Proofs.Sql.Relation
import Etl.Proofs.Text

/-!
Views and the tables around them. A view never has a name that some node's configuration mentions.
What a statement reads or writes is the trimmed text of a field that the type may also fill in, so a
name with blanks around it, or one that only the type gives, is not protected.
-/

namespace Etl

namespace Text

/-- No letter becomes a dot. -/
theorem dot_mem_lowerAscii {s : String} : '.' ∈ (lowerAscii s).toList ↔ '.' ∈ s.toList := by
  simp only [lowerAscii, String.toList_ofList, List.mem_map]
  constructor
  · rintro ⟨c, member, same⟩
    split at same
    next letter =>
      have low : 65 ≤ c.toNat := letter.1
      have high : c.toNat ≤ 90 := letter.2
      have lowered : ∀ n < 26, Char.ofNat (n + 97) ≠ '.' := by decide
      have shift : c.toNat + 32 = (c.toNat - 65) + 97 := by omega
      rw [shift] at same
      exact absurd same (lowered _ (by omega))
    next =>
      rw [← same]
      exact member
  · exact fun member => ⟨'.', member, by decide⟩

end Text

namespace Sql

/-- The name that the text of a field stands for: a whole topic, or the last part of a table. -/
def referent? (field text : String) : Option String :=
  if field = "topic" then some text else (Text.split '.' text).getLast?

/-- The last part of a table's name with its schema. -/
def lastPart? (schema : Option String) (table : String) : Option String :=
  ((schema.map (Text.split '.')).getD [] ++ Text.split '.' table).getLast?

/-- The table or topic that a query reads. -/
def Query.external? : Query → Option String
  | .table schema name => lastPart? schema name
  | .stream topic => some topic
  | _ => none

/-- The table or topic that a statement reads in a source or writes in a target. -/
def Statement.external? : Statement → Option String
  | .view _ query => query.external?
  | .write w => lastPart? w.target.schema w.target.table

/-- The field that names it. -/
def Statement.externalField : Statement → String
  | .view _ (.stream _) => "topic"
  | _ => "table"

/-- Some node's configuration mentions the name. -/
def Reserved (p : Pipeline) (name : String) : Prop :=
  Text.lowerAscii name ∈ (externalNames p).map Text.lowerAscii

/-- Some view has the name. -/
def Shadowed (p : Pipeline) (name : String) : Prop := ∃ e ∈ relationNames p, SameName e.2 name

variable {p : Pipeline} {c : Catalog}

theorem lastPart?_eq (schema : Option String) (table : String) :
    lastPart? schema table = referent? "table" table := by
  have pieces : Text.split '.' table ≠ [] := by
    simp [Text.split, Text.splitChars_ne_nil]
  rw [lastPart?, List.getLast?_append_of_ne_nil _ pieces, referent?, if_neg (by decide)]

/-- What a statement reads or writes is the trimmed text of a field of its node. -/
theorem external?_of_planNode {id : NodeId} {block : Block} {name : String}
    (planned : planNode p c (relationNames p) id = .ok block)
    (external : block.statement.external? = some name) :
    ∃ node type raw, p.node? id = some node ∧ c.get? node.type = some type ∧
      node.effective? type block.statement.externalField = some (.text raw) ∧
      referent? block.statement.externalField (Text.trim raw) = some name := by
  obtain ⟨node, type, settings, found, registered, projected, rfl⟩ := planNode_eq_ok.mp planned
  refine ⟨node, type, ?_⟩
  have ofText : ∀ {field text : String}, Settings.Source.text ⟨node, type⟩ field = .ok text →
      referent? field text = some name →
      ∃ raw, p.node? id = some node ∧ c.get? node.type = some type ∧
        node.effective? type field = some (.text raw) ∧
        referent? field (Text.trim raw) = some name := by
    intro field text given stands
    obtain ⟨raw, effective, _, rfl⟩ :=
      Settings.Source.text?_eq_ok_some.mp (Settings.Source.text_eq_ok.mp given)
    exact ⟨raw, found, registered, effective, stands⟩
  obtain ⟨_, made⟩ := Settings.project_eq_ok projected
  cases settings with
  | source s =>
      have made := Settings.ofSource_eq_ok.mp made
      cases s with
      | file path format => cases external
      | stream connection topic =>
          obtain ⟨_, _, _, _, given, _⟩ := made
          exact ofText given external
      | table connection schema table =>
          obtain ⟨_, _, _, _, _, given, _⟩ := made
          exact ofText given ((lastPart?_eq schema table).symm.trans external)
  | transform t => cases t <;> cases external
  | check check => cases external
  | target t =>
      have given := Settings.table_of_ofTarget made
      exact ofText given ((lastPart?_eq t.schema t.table).symm.trans external)

theorem shadowed_iff {name : String} :
    Shadowed p name ↔ ¬ Reserved p name ∧
      ∃ before id after k, p.nodes.keys = before ++ id :: after ∧
        SameName (candidate (viewName id) k) name ∧
        ∀ j < k, Reserved p (candidate (viewName id) j) ∨
          ∃ e ∈ assignNames ((externalNames p).map Text.lowerAscii) before,
            SameName e.2 (candidate (viewName id) j) := by
  rw [Shadowed, relationNames, exists_assigned_iff]
  simp only [List.mem_append, List.mem_map, Reserved, SameName]

theorem dot_notMem_candidate (id : NodeId) (k : Nat) :
    '.' ∉ (candidate (viewName id) k).toList := by
  have base : '.' ∉ (viewName id).toList := by
    simp only [viewName, sanitize, String.toList_append, String.toList_ofList, List.mem_append,
      List.mem_map, not_or, not_exists, not_and]
    refine ⟨by decide, fun c _ same => ?_⟩
    split at same
    next word =>
      rw [same] at word
      exact absurd word (by decide)
    next => exact absurd same (by decide)
  cases k with
  | zero => exact base
  | succ k =>
      have digits : '.' ∉ (toString (k + 2)).toList := by
        rw [Nat.toString_eq_repr, Nat.toList_repr]
        intro member
        exact absurd (Nat.isDigit_of_mem_toDigits (by decide) (by decide) member) (by decide)
      have mark : '.' ∉ "_".toList := by decide
      simp only [candidate, String.toList_append, List.mem_append, not_or]
      exact ⟨⟨base, mark⟩, digits⟩

/-- No name with a dot is shadowed. -/
theorem not_shadowed_of_dot {name : String} (dot : '.' ∈ name.toList) : ¬ Shadowed p name := by
  intro shadowed
  obtain ⟨_, _, id, _, k, _, same, _⟩ := shadowed_iff.mp shadowed
  rw [← Text.dot_mem_lowerAscii, ← same, Text.dot_mem_lowerAscii] at dot
  exact dot_notMem_candidate id k dot

/-- The configuration of a node protects the names in it as they are written. -/
theorem not_shadowed_of_configured {id : NodeId} {node : Node} {field text name : String}
    (found : p.node? id = some node) (known : field = "table" ∨ field = "topic")
    (configured : node.config.get? field = some (.text text))
    (stands : referent? field text = some name) : ¬ Shadowed p name := by
  have visited : node ∈ p.nodeList := Pipeline.mem_nodeList.mpr ⟨id, found⟩
  have reserved : ∀ last, (Text.split '.' text).getLast? = some last → Reserved p last := by
    intro last ends
    refine List.mem_map.mpr ⟨last, List.mem_flatMap.mpr ⟨node, visited, ?_⟩, rfl⟩
    refine List.mem_filterMap.mpr ⟨field, by simpa using known, ?_⟩
    simp [configured, ConfigValue.text?, ends]
  rcases known with rfl | rfl
  · exact fun shadowed => (shadowed_iff.mp shadowed).1 (reserved name stands)
  · obtain rfl := Option.some.inj stands
    by_cases dot : '.' ∈ text.toList
    · exact not_shadowed_of_dot dot
    · refine fun shadowed => (shadowed_iff.mp shadowed).1 (reserved text ?_)
      simp [Text.split, Text.splitChars_of_notMem dot]

end Sql

namespace Compiler

variable (c : Compiler) {p : Pipeline}

/-- When a view has the name of a table or topic that the script reads or writes. The name must not
be mentioned in the configuration of any node, and be the first candidate left at some node's turn.
So a configured name is safe as long as it has no blanks around it. -/
theorem shadowed_iff_unreserved (h : p.Reachable) {text : String}
    (generated : c.generate p .sql = .ok text) :
    ∃ script, Sql.plan p c.catalog = .ok script ∧ text = script.render ∧
      ∀ block ∈ script.sorted, ∀ name, block.statement.external? = some name →
        (Sql.Shadowed p name ↔ ¬ Sql.Reserved p name ∧
          ∃ before id after k, p.nodes.keys = before ++ id :: after ∧
            Sql.SameName (Sql.candidate (Sql.viewName id) k) name ∧
            ∀ j < k, Sql.Reserved p (Sql.candidate (Sql.viewName id) j) ∨
              ∃ e ∈ Sql.assignNames ((Sql.externalNames p).map Text.lowerAscii) before,
                Sql.SameName e.2 (Sql.candidate (Sql.viewName id) j)) ∧
        ∃ node type raw, p.node? block.node = some node ∧ c.catalog.get? node.type = some type ∧
          node.effective? type block.statement.externalField = some (.text raw) ∧
          Sql.referent? block.statement.externalField (Text.trim raw) = some name ∧
          (node.config.contains block.statement.externalField → Text.trim raw = raw →
            ¬ Sql.Shadowed p name) := by
  obtain ⟨script, planned, rendered⟩ := c.exists_plan_of_generate generated
  refine ⟨script, planned, rendered, fun block member name external => ⟨Sql.shadowed_iff, ?_⟩⟩
  obtain ⟨id, made⟩ := Sql.exists_planNode_of_mem planned (Sql.Script.mem_sorted.mp member)
  obtain ⟨node, type, raw, found, registered, effective, stands⟩ :=
    Sql.external?_of_planNode made external
  rw [Sql.node_of_planNode h.wellFormed made]
  refine ⟨node, type, raw, found, registered, effective, stands, fun configured neat => ?_⟩
  obtain ⟨value, given⟩ := SortedMap.contains_iff.mp configured
  have own : node.config.get? block.statement.externalField = some (.text raw) := by
    rw [Node.effective?, given] at effective
    rw [given]
    exact effective
  rw [neat] at stands
  refine Sql.not_shadowed_of_configured found ?_ own stands
  unfold Sql.Statement.externalField
  split
  · exact .inr rfl
  · exact .inl rfl

/-- A source whose table is written with blanks around its name. -/
def paddedTable : Descriptor where
  id := "p"
  name := "P"
  nodes :=
    [⟨"A", "source-pg", "", .ofList [("connection", .text "dwh"), ("table", .text " pw_A ")]⟩,
     ⟨"B", "target-pg", "", .ofList [("connection", .text "dwh"), ("table", .text "daily")]⟩]
  edges := [⟨"A", "B"⟩]

theorem shadowed_paddedTable :
    let c : Compiler := ⟨Catalog.standard, default⟩
    ∃ p text script block, Pipeline.ofDescriptor paddedTable = .ok p ∧
      c.generate p .sql = .ok text ∧ Sql.plan p c.catalog = .ok script ∧ text = script.render ∧
      block ∈ script.sorted ∧ block.statement.external? = some "pw_A" ∧
      Sql.Shadowed p "pw_A" := by
  intro c
  obtain ⟨p, built⟩ : ∃ p, Pipeline.ofDescriptor paddedTable = .ok p := ⟨_, rfl⟩
  have h : p.Reachable := .loaded built
  obtain ⟨text, generated⟩ : ∃ text, c.generate p .sql = .ok text := by
    refine c.exists_generate_of_clean h.wellFormed ?_ .sql
    cases built
    decide +kernel
  obtain ⟨script, planned, rendered, each⟩ := c.shadowed_iff_unreserved h generated
  have read : ((Sql.plan p c.catalog).toOption.map fun script =>
      script.sorted.filterMap (·.statement.external?)) = some ["pw_A", "daily"] := by
    cases built
    decide +kernel
  rw [planned] at read
  have listed : script.sorted.filterMap (·.statement.external?) = ["pw_A", "daily"] :=
    Option.some.inj read
  have mentioned : "pw_A" ∈ script.sorted.filterMap (·.statement.external?) := by
    rw [listed]
    exact List.mem_cons_self
  obtain ⟨block, member, external⟩ := List.mem_filterMap.mp mentioned
  have free : ¬ Sql.Reserved p "pw_A" := by
    cases built
    unfold Sql.Reserved
    decide +kernel
  have keys : p.nodes.keys = [] ++ "A" :: ["B"] := by
    cases built
    decide +kernel
  refine ⟨p, text, script, block, built, generated, planned, rendered, member, external, ?_⟩
  refine (each block member "pw_A" external).1.mpr ⟨free, [], "A", ["B"], 0, keys, ?_, ?_⟩
  · unfold Sql.SameName
    decide +kernel
  · exact fun j less => absurd less (Nat.not_lt_zero j)

end Compiler

end Etl
