import Etl.Catalog.Standard
import Etl.Proofs.Settings.Complete
import Etl.Proofs.Sql.Item

/-!
Statements as rows of clauses. A clause is a keyword with what stands behind it, and settings are so
complete that something always does: nothing is selected from an empty list, and no condition and no
list of keys is left empty. Only a query written by hand is not taken apart.
-/

namespace Etl.Sql

structure Clause where
  keyword : String
  content : String
deriving DecidableEq

namespace Clause

def render (k : Clause) : String := k.keyword ++ k.content

/-- The text of clauses, one behind the other. -/
def join (ks : List Clause) : String := String.join (ks.map render)

@[simp]
theorem join_nil : join [] = "" := rfl

@[simp]
theorem join_cons (keyword content : String) (ks : List Clause) :
    join (⟨keyword, content⟩ :: ks) = keyword ++ (content ++ join ks) := by
  rw [join, List.map_cons, String.join_cons, render, String.append_assoc, join]

theorem join_append (ks ls : List Clause) : join (ks ++ ls) = join ks ++ join ls := by
  rw [join, List.map_append, String.join_append, join, join]

theorem join_singleton (keyword content : String) : join [⟨keyword, content⟩] = keyword ++ content := by
  rw [join_cons, join_nil, String.append_empty]

/-- Something stands behind the keyword, if there is one. -/
def Filled (k : Clause) : Prop := k.keyword ≠ "" → Text.isBlank k.content = false

theorem filled_cons {keyword content : String} {ks : List Clause}
    (given : Text.isBlank content = false) (rest : ∀ k ∈ ks, k.Filled) :
    ∀ k ∈ (⟨keyword, content⟩ :: ks : List Clause), k.Filled :=
  List.forall_mem_cons.mpr ⟨fun _ => given, rest⟩

theorem filled_singleton {keyword content : String} (given : Text.isBlank content = false) :
    ∀ k ∈ ([⟨keyword, content⟩] : List Clause), k.Filled :=
  filled_cons given nofun

end Clause

/-- The clauses of a query. -/
def Query.clauses : Query → List Clause
  | table schema name => [⟨"SELECT * FROM ", tableName schema name⟩]
  | file path => [⟨"SELECT * FROM ", quoteText path⟩]
  | stream topic => [⟨"SELECT * FROM ", quoteName topic⟩]
  | all inputs => [⟨"SELECT * FROM ", combined inputs⟩]
  | filter inputs condition => [⟨"SELECT * FROM ", combined inputs⟩, ⟨" WHERE ", condition⟩]
  | aggregate inputs groupBy aggregates condition =>
    [⟨"SELECT ", ", ".intercalate (groupBy ++ aggregates)⟩, ⟨" FROM ", combined inputs⟩] ++
      condition.toList.map (⟨" WHERE ", ·⟩) ++
      if groupBy.isEmpty then [] else [⟨" GROUP BY ", ", ".intercalate groupBy⟩]
  | custom inputs text => [⟨"", fillPlaces text inputs⟩]

/-- The clauses of a write. -/
def Write.clauses (w : Write) : List Clause :=
  let insertion : List Clause :=
    [⟨"INSERT INTO ", w.table⟩, ⟨"\nSELECT * FROM ", combined w.inputs⟩]
  match w.target.strategy with
  | .append => insertion
  | .overwrite => ⟨"TRUNCATE TABLE ", w.table ++ ";\n"⟩ :: insertion
  | .merge =>
    [⟨"MERGE INTO ", w.table⟩, ⟨" AS t\nUSING ", aliased "s" w.inputs⟩,
     ⟨"\nON ", w.mergeCondition⟩, ⟨"\nWHEN MATCHED THEN UPDATE SET ", w.mergeUpdate⟩,
     ⟨"\nWHEN NOT MATCHED THEN INSERT ", "*"⟩]
  | .upsert =>
    insertion ++ [⟨"\nON CONFLICT (", ", ".intercalate (w.target.keyColumns.map quoteName)⟩,
      ⟨") ", w.conflictAction⟩]

def Statement.clauses : Statement → List Clause
  | view name query => ⟨"CREATE OR REPLACE TEMPORARY VIEW ", name ++ " AS\n"⟩ :: query.clauses
  | write w => w.clauses

theorem Query.render_eq (q : Query) : q.render = Clause.join q.clauses := by
  cases q with
  | filter inputs condition =>
      change "SELECT * FROM " ++ _ ++ " WHERE " ++ _ = Clause.join [_, _]
      rw [Clause.join_cons, Clause.join_singleton, String.append_assoc, String.append_assoc]
  | aggregate inputs groupBy aggregates condition =>
      change "SELECT " ++ _ ++ " FROM " ++ _ ++ _ ++ _ = Clause.join ([_, _] ++ _ ++ _)
      rw [Clause.join_append, Clause.join_append, Clause.join_cons, Clause.join_singleton]
      cases condition <;> cases groupBy <;> simp [String.append_assoc]
  | custom inputs text => exact String.empty_append.symm.trans (Clause.join_singleton _ _).symm
  | _ => exact (Clause.join_singleton _ _).symm

theorem Write.render_eq (w : Write) : w.render = Clause.join w.clauses ++ ";\n" := by
  unfold render clauses
  cases w.target.strategy <;> simp [insertion, String.append_assoc]

/-- A statement is its clauses, one behind the other. -/
theorem Statement.render_eq (s : Statement) : s.render = Clause.join s.clauses ++ ";\n" := by
  cases s with
  | view name query =>
      change _ ++ name ++ _ ++ query.render ++ ";\n" = Clause.join (_ :: query.clauses) ++ _
      rw [Clause.join_cons, query.render_eq]
      simp only [String.append_assoc]
  | write w => exact w.render_eq

section Content

open Text

theorem isBlankChar_of_isWordChar {c : Char} (word : isWordChar c) : isBlankChar c = false := by
  have between {low high : Char} (inside : decide (low ≤ c) && decide (c ≤ high)) :
      low.toNat ≤ c.toNat ∧ c.toNat ≤ high.toNat := by
    simpa [Char.le_def, UInt32.le_iff_toNat_le] using inside
  -- Word characters stand between the digit zero and the letter z, and no blank does.
  have range : '0'.toNat ≤ c.toNat ∧ c.toNat ≤ 'z'.toNat := by
    simp only [isWordChar, isLetter, isDigit, Bool.or_eq_true] at word
    rcases word with ((small | capital) | digit) | underscore
    · exact (between small).imp_left (Nat.le_trans (by decide))
    · exact (between capital).imp (Nat.le_trans (by decide)) (Nat.le_trans · (by decide))
    · exact (between digit).imp_right (Nat.le_trans · (by decide))
    · rw [of_decide_eq_true underscore]
      decide
  simp only [Char.reduceToNat] at range
  simp [isBlankChar, inRanges, blankRanges]
  omega

theorem isBlank_of_mem {s : String} {c : Char} (member : c ∈ s.toList)
    (given : isBlankChar c = false) : isBlank s = false :=
  List.all_eq_false.mpr ⟨c, member, by simp [given]⟩

theorem IsRelationName.isBlank {name : String} (h : IsRelationName name) : isBlank name = false :=
  isBlank_of_mem (h.marked.subset (List.mem_cons_self (a := 'p'))) (by decide)

theorem isBlank_quoteText (text : String) : isBlank (quoteText text) = false :=
  isBlank_of_mem (c := '\x27') (by simp [quoteText, enclose]) (by decide)

theorem isBlank_quoteName (name : String) : isBlank (quoteName name) = false := by
  rw [quoteName]
  split
  next word =>
    cases chars : name.toList with
    | nil => simp [chars, isWord] at word
    | cons c cs =>
        rw [chars, isWord, Bool.and_eq_true, List.all_cons, Bool.and_eq_true] at word
        exact isBlank_of_mem (chars ▸ List.mem_cons_self) (isBlankChar_of_isWordChar word.2.1)
  next => exact isBlank_of_mem (c := '\x22') (by simp [enclose]) (by decide)

theorem isBlank_tableName (schema : Option String) (table : String) :
    isBlank (tableName schema table) = false := by
  obtain ⟨part, last⟩ := List.exists_mem_of_ne_nil _ (splitChars_ne_nil '.' table.toList)
  have member : String.ofList part ∈ split '.' table := List.mem_map_of_mem last
  exact isBlank_intercalate (List.mem_map_of_mem (List.mem_append_right _ member))
    (isBlank_quoteName _)

/-- A list that is made from another one with entries is not blank when no entry is. -/
theorem isBlank_intercalate_map {separator : String} {items : List String} (some : items ≠ [])
    {f : String → String} (given : ∀ s, isBlank (f s) = false) :
    isBlank (separator.intercalate (items.map f)) = false := by
  obtain ⟨item, member⟩ := List.exists_mem_of_ne_nil _ some
  exact isBlank_intercalate (List.mem_map_of_mem member) (given item)

theorem isBlank_aliased (name : String) (given : isBlank name = false) (inputs : List String) :
    isBlank (aliased name inputs) = false := by
  rw [aliased, isBlank_append, given, Bool.and_false]

theorem isBlank_combined {inputs : List String} (named : ∀ name ∈ inputs, isBlank name = false) :
    isBlank (combined inputs) = false := by
  rw [combined]
  split
  next single =>
    obtain ⟨name, rfl⟩ := List.length_eq_one_iff.mp single
    exact named name List.mem_cons_self
  next => exact isBlank_aliased _ (by decide) inputs

end Content

section Filled

open Text

variable {inputs : List String} (named : ∀ name ∈ inputs, isBlank name = false)

theorem Query.filled_ofSource (t : SourceSettings) : ∀ k ∈ (Query.ofSource t).clauses, k.Filled := by
  cases t with
  | table connection schema name => exact Clause.filled_singleton (isBlank_tableName schema name)
  | file path format => exact Clause.filled_singleton (isBlank_quoteText path)
  | stream connection topic => exact Clause.filled_singleton (isBlank_quoteName topic)

include named

theorem Query.filled_ofTransform {t : TransformSettings} (complete : t.Complete) :
    ∀ k ∈ (Query.ofTransform inputs t).clauses, k.Filled := by
  cases t with
  | filter condition =>
      exact Clause.filled_cons (isBlank_combined named) (Clause.filled_singleton complete.isBlank)
  | aggregate groupBy aggregates condition =>
      obtain ⟨some, neat, condition⟩ := complete
      have listed {items : List String} (some : items ≠ []) (part : items ⊆ groupBy ++ aggregates) :
          isBlank (", ".intercalate items) = false := by
        obtain ⟨item, member⟩ := List.exists_mem_of_ne_nil _ some
        exact isBlank_intercalate member (neat item (part member)).isBlank
      refine List.forall_mem_append.mpr ⟨List.forall_mem_append.mpr ⟨?_, ?_⟩, ?_⟩
      · exact Clause.filled_cons (listed some (List.Subset.refl _))
          (Clause.filled_singleton (isBlank_combined named))
      · intro k member
        obtain ⟨text, given, rfl⟩ := List.mem_map.mp member
        exact fun _ => (condition text (Option.mem_toList.mp given)).isBlank
      · split
        next => nofun
        next groups =>
          have groups : groupBy ≠ [] := by simpa using groups
          exact Clause.filled_singleton (listed groups (List.subset_append_left _ _))
  | query text => exact List.forall_mem_singleton.mpr fun keyword => absurd rfl keyword

theorem Write.filled {t : TargetSettings} (complete : t.Complete) :
    ∀ k ∈ (Write.mk t inputs).clauses, k.Filled := by
  have table : isBlank (Write.mk t inputs).table = false := isBlank_tableName _ _
  have keys := complete.keys
  have insertion : ∀ k ∈ ([⟨"INSERT INTO ", (Write.mk t inputs).table⟩,
      ⟨"\nSELECT * FROM ", combined inputs⟩] : List Clause), k.Filled :=
    Clause.filled_cons table (Clause.filled_singleton (isBlank_combined named))
  unfold clauses
  cases strategy : t.strategy with
  | append => exact insertion
  | overwrite =>
      refine Clause.filled_cons ?_ insertion
      rw [isBlank_append, table, Bool.false_and]
  | merge =>
      have condition : isBlank (Write.mk t inputs).mergeCondition = false := by
        refine isBlank_intercalate_map (keys (strategy ▸ rfl)) fun k => ?_
        rw [isBlank_append, isBlank_quoteName, Bool.and_false]
      have update : isBlank (Write.mk t inputs).mergeUpdate = false := by
        unfold mergeUpdate
        split
        next => decide
        next some =>
          refine isBlank_intercalate_map (by simpa using some) fun c => ?_
          rw [isBlank_append, isBlank_quoteName, Bool.and_false]
      exact Clause.filled_cons table <| Clause.filled_cons (isBlank_aliased _ (by decide) _) <|
        Clause.filled_cons condition <| Clause.filled_cons update <|
          Clause.filled_singleton (by decide)
  | upsert =>
      have action : isBlank (Write.mk t inputs).conflictAction = false := by
        unfold conflictAction
        split
        next => decide
        next =>
          rw [isBlank_append]
          exact Bool.and_eq_false_iff.mpr (.inl (by decide))
      refine List.forall_mem_append.mpr ⟨insertion, ?_⟩
      exact Clause.filled_cons (isBlank_intercalate_map (keys (strategy ▸ rfl)) isBlank_quoteName)
        (Clause.filled_singleton action)

/-- The statement of a node with complete settings is filled. -/
theorem blockOf_filled (node : Node) (name : String) {settings : Settings}
    (complete : settings.Complete) :
    ∀ k ∈ (blockOf node name inputs settings).statement.clauses, k.Filled := by
  have view {query : Query} (filled : ∀ k ∈ query.clauses, k.Filled) :
      ∀ k ∈ (Statement.view name query).clauses, k.Filled := by
    refine Clause.filled_cons ?_ filled
    rw [isBlank_append, Bool.and_eq_false_iff]
    exact .inr rfl
  cases settings with
  | source t => exact view (Query.filled_ofSource t)
  | transform t => exact view (Query.filled_ofTransform named complete)
  | check t =>
      exact view (Clause.filled_singleton (isBlank_combined named))
  | target t => exact Write.filled named complete

end Filled

/-- No block of a script leaves a clause empty. -/
theorem filled_of_plan {p : Pipeline} {c : Catalog} {script : Script}
    (planned : plan p c = .ok script) :
    ∀ b ∈ script.blocks, ∀ k ∈ b.statement.clauses, k.Filled := by
  intro b member
  obtain ⟨id, made⟩ := exists_planNode_of_mem planned member
  obtain ⟨node, type, settings, _, _, projected, rfl⟩ := planNode_eq_ok.mp made
  refine blockOf_filled (fun name read => ?_) node _ (Settings.complete_of_project projected)
  exact (isRelationName_of_mem_inputsOf read).isBlank

/-- Whatever settings can be made, those are of the category of the type, they are complete, and
the statement they lead to is a row of clauses with something behind each keyword. -/
theorem project_renderable {node : Node} {type : NodeType} {settings : Settings}
    (projected : Settings.project node type = .ok settings) :
    settings.category = type.category ∧ settings.Complete ∧
      ∀ (name : String) (inputs : List String), (∀ n ∈ inputs, Text.isBlank n = false) →
        let statement := (blockOf node name inputs settings).statement
        statement.render = Clause.join statement.clauses ++ ";\n" ∧
          ∀ k ∈ statement.clauses, k.Filled := by
  have complete := Settings.complete_of_project projected
  refine ⟨(Settings.project_eq_ok projected).1, complete, fun name inputs named => ⟨?_, ?_⟩⟩
  · exact Statement.render_eq _
  · exact blockOf_filled named node name complete

/-- An upsert with blanks around its texts and an entry that is only blanks. -/
def paddedUpsert : Node where
  id := "B"
  type := "target-pg"
  label := ""
  config := .ofList
    [("connection", .text "dwh"), ("table", .text " daily "), ("load_strategy", .text " upsert "),
     ("key_columns", .list [" id ", " "])]

theorem project_renderable_paddedUpsert :
    let type := Catalog.databaseTarget "target-pg" "" ""
    let settings := Settings.target ⟨"dwh", none, "daily", .upsert, ["id"], []⟩
    Settings.project paddedUpsert type = .ok settings ∧ settings.category = .target ∧
      settings.Complete ∧
      let statement := (blockOf paddedUpsert "B" ["pw_A"] settings).statement
      statement.render =
        "INSERT INTO daily\nSELECT * FROM pw_A\nON CONFLICT (id) DO NOTHING;\n" ∧
      ∀ k ∈ statement.clauses, Text.isBlank k.content = false := by
  intro type settings
  have projected : Settings.project paddedUpsert type = .ok settings := by decide +kernel
  obtain ⟨category, complete, filled⟩ := project_renderable projected
  refine ⟨projected, category, complete, by decide +kernel, fun k member => ?_⟩
  refine (filled "B" ["pw_A"] (by decide +kernel)).2 k member ?_
  have keywords : ∀ k ∈ (blockOf paddedUpsert "B" ["pw_A"] settings).statement.clauses,
      k.keyword ≠ "" := by
    decide +kernel
  exact keywords k member

end Etl.Sql
