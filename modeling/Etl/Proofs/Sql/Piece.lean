import Etl.Catalog.Standard
import Etl.Proofs.Sql.Item
import Etl.Proofs.Sql.Quotation

/-!
Where names and text values stand in a statement. A statement is a row of pieces: text of its own,
names and text values. Read from where it begins, a name or a text value gives what it was made of
and ends where the next piece begins, and no quotes stand in the text between.
-/

namespace Etl.Sql

/-- A text without quotes. -/
def Quoteless (text : String) : Prop := ∀ c ∈ text.toList, c ≠ '\x22' ∧ c ≠ '\x27'

instance (text : String) : Decidable (Quoteless text) :=
  List.decidableBAll _ text.toList

theorem quoteless_append {a b : String} : Quoteless (a ++ b) ↔ Quoteless a ∧ Quoteless b := by
  rw [Quoteless, String.toList_append, List.forall_mem_append]
  rfl

/-- A piece of a statement: text of its own, a name, or a text value. -/
inductive Piece where
  | plain (text : String)
  | name (parts : List String)
  | value (text : String)

namespace Piece

def isPlain : Piece → Bool
  | plain _ => true
  | name _ | value _ => false

def render : Piece → String
  | plain text => text
  | name parts => dotted parts
  | value text => quoteText text

@[simp]
theorem render_plain (text : String) : (plain text).render = text := rfl

@[simp]
theorem render_name (parts : List String) : (name parts).render = dotted parts := rfl

theorem render_value (text : String) : (value text).render = quoteText text := rfl

/-- The text of pieces, one behind the other. -/
def join (ps : List Piece) : String := String.join (ps.map render)

@[simp]
theorem join_nil : join [] = "" := rfl

@[simp]
theorem join_cons (p : Piece) (ps : List Piece) : join (p :: ps) = p.render ++ join ps := by
  rw [join, List.map_cons, String.join_cons, join]

theorem join_singleton (p : Piece) : join [p] = p.render := by
  rw [join_cons, join_nil, String.append_empty]

@[simp]
theorem join_append (ps qs : List Piece) : join (ps ++ qs) = join ps ++ join qs := by
  rw [join, List.map_append, String.join_append, join, join]

/-- The pieces of entries with a separator between them. -/
def listed {α : Type} (separator : String) (f : α → List Piece) : List α → List Piece
  | [] => []
  | [a] => f a
  | a :: b :: as => f a ++ plain separator :: listed separator f (b :: as)

@[simp]
theorem join_listed {α : Type} (separator : String) (f : α → List Piece) (as : List α) :
    join (listed separator f as) = separator.intercalate (as.map fun a => join (f a)) := by
  induction as with
  | nil => rfl
  | cons a as ih =>
      cases as with
      | nil => exact String.intercalate_singleton.symm
      | cons b as =>
          rw [listed, join_append, join_cons, ih, List.map_cons, List.map_cons, List.map_cons,
            String.intercalate_cons_cons, render_plain, String.append_assoc]

/-- Text of the statement has no quotes. Reading from where a name or a text value begins gives just
that, and stops where the rest begins. -/
def StandsBefore (rest : String) : Piece → Prop
  | plain text => Quoteless text
  | name parts => readName (dotted parts ++ rest).toList = some (parts, rest.toList)
  | value text => readText (quoteText text ++ rest).toList = some (text, rest.toList)

/-- Each piece stands in front of the pieces after it and then the rest. -/
def InPlace : List Piece → String → Prop
  | [], _ => True
  | p :: ps, rest => p.StandsBefore (join ps ++ rest) ∧ InPlace ps rest

section InPlace

variable {ps qs : List Piece} {text rest : String}

/-- Text that ends what stands in front of it. -/
theorem stops_join (ends : text.toList.head?.any isStop) (ps : List Piece) (rest : String) :
    Stops (join (plain text :: ps) ++ rest).toList := by
  rw [join_cons, render_plain, String.append_assoc]
  exact Stops.text ends _

theorem standsBefore_name {parts : List String} (given : parts ≠ []) (stops : Stops rest.toList) :
    (name parts).StandsBefore rest := by
  rw [StandsBefore, String.toList_append]
  exact readName_dotted given stops

theorem standsBefore_value (value : String) (stops : Stops rest.toList) :
    (Piece.value value).StandsBefore rest := by
  rw [StandsBefore, String.toList_append]
  exact readText_quoteText value fun c first => (isStop_iff.mp (stops c first)).2.1

theorem inPlace_singleton {p : Piece} : InPlace [p] rest ↔ p.StandsBefore rest := by
  rw [InPlace, join_nil, String.empty_append, InPlace, and_true]

theorem inPlace_append :
    InPlace (ps ++ qs) rest ↔ InPlace ps (join qs ++ rest) ∧ InPlace qs rest := by
  induction ps with
  | nil => exact (and_iff_right trivial).symm
  | cons p ps ih =>
      rw [List.cons_append, InPlace, InPlace, ih, join_append, String.append_assoc, and_assoc]

theorem inPlace_plain (quoteless : Quoteless text) (back : InPlace ps rest) :
    InPlace (plain text :: ps) rest :=
  ⟨quoteless, back⟩

/-- A name and then text of the statement. -/
theorem inPlace_name {parts : List String} (given : parts ≠ [])
    (ends : text.toList.head?.any isStop) (back : InPlace (plain text :: ps) rest) :
    InPlace (name parts :: plain text :: ps) rest :=
  ⟨standsBefore_name given (stops_join ends ps rest), back⟩

/-- Pieces and then text of the statement. -/
theorem inPlace_append_plain (front : ∀ {after : String}, Stops after.toList → InPlace ps after)
    (ends : text.toList.head?.any isStop) (back : InPlace (plain text :: qs) rest) :
    InPlace (ps ++ plain text :: qs) rest :=
  inPlace_append.mpr ⟨front (stops_join ends qs rest), back⟩

theorem inPlace_listed {α : Type} {f : α → List Piece} (ends : text.toList.head?.any isStop)
    (quoteless : Quoteless text)
    (entry : ∀ (a : α) {after : String}, Stops after.toList → InPlace (f a) after)
    (as : List α) (stops : Stops rest.toList) : InPlace (listed text f as) rest := by
  induction as with
  | nil => trivial
  | cons a as ih =>
      cases as with
      | nil => exact entry a stops
      | cons b as => exact inPlace_append_plain (entry a) ends (inPlace_plain quoteless ih)

end InPlace

end Piece

open Piece hiding plain name value

/-- The pieces of a query. What its author wrote as text stays text. -/
def Query.pieces : Query → List Piece
  | table schema name => [.plain "SELECT * FROM ", .name (tableParts schema name)]
  | file path => [.plain "SELECT * FROM ", .value path]
  | stream topic => [.plain "SELECT * FROM ", .name [topic]]
  | query => [.plain query.render]

namespace Write

variable (w : Write)

def tableAsPiece : Piece := .name (tableParts w.target.schema w.target.table)

def insertionPieces : List Piece :=
  [.plain "INSERT INTO ", w.tableAsPiece, .plain "\nSELECT * FROM ", .plain (combined w.inputs)]

def conditionPieces : List Piece :=
  listed " AND " (fun k => [.name ["t", k], .plain " = ", .name ["s", k]]) w.target.keyColumns

/-- Columns that take their values from the row under an alias. -/
def assignments (row : String) : List Piece :=
  listed ", " (fun c => [.name [c], .plain " = ", .name [row, c]]) w.target.columns

def updatePieces : List Piece :=
  if w.target.columns.isEmpty then [.plain "*"] else w.assignments "s"

def keyPieces : List Piece := listed ", " (fun k => [.name [k]]) w.target.keyColumns

def actionPieces : List Piece :=
  if w.ignoresConflicts then [.plain "DO NOTHING"]
  else .plain "DO UPDATE SET " :: w.assignments "EXCLUDED"

/-- The pieces of a write. -/
def pieces : List Piece :=
  match w.target.strategy with
  | .append => w.insertionPieces ++ [.plain ";\n"]
  | .overwrite =>
    .plain "TRUNCATE TABLE " :: w.tableAsPiece :: .plain ";\n" ::
      (w.insertionPieces ++ [.plain ";\n"])
  | .merge =>
    .plain "MERGE INTO " :: w.tableAsPiece :: .plain " AS t\nUSING " ::
      .plain (aliased "s" w.inputs) :: .plain "\nON " ::
      (w.conditionPieces ++ .plain "\nWHEN MATCHED THEN UPDATE SET " ::
        (w.updatePieces ++ [.plain "\nWHEN NOT MATCHED THEN INSERT *;\n"]))
  | .upsert =>
    w.insertionPieces ++ .plain "\nON CONFLICT (" ::
      (w.keyPieces ++ .plain ") " :: (w.actionPieces ++ [.plain ";\n"]))

end Write

/-- The pieces of a statement. -/
def Statement.pieces : Statement → List Piece
  | view name query =>
    .plain ("CREATE OR REPLACE TEMPORARY VIEW " ++ name ++ " AS\n") ::
      (query.pieces ++ [.plain ";\n"])
  | write w => w.pieces

section Render

theorem Query.render_eq_join (q : Query) : q.render = join q.pieces := by
  cases q <;>
    simp only [pieces, join_cons, join_nil, render_plain, render_name, render_value,
      dotted_singleton, String.append_empty] <;>
    rfl

/-- A column of the row under an alias. -/
theorem dotted_pair {row : String} (word : isWord row.toList) (column : String) :
    dotted [row, column] = row ++ ("." ++ quoteName column) := by
  rw [dotted, List.map_cons, List.map_singleton, String.intercalate_cons_cons,
    String.intercalate_singleton, quoteName, if_pos word, String.append_assoc]

namespace Write

variable (w : Write)

theorem render_tableAsPiece : w.tableAsPiece.render = w.table := rfl

theorem join_insertionPieces : join w.insertionPieces = w.insertion := by
  simp only [insertion, insertionPieces, join_cons, join_nil, render_plain, render_tableAsPiece,
    String.append_assoc, String.append_empty]

theorem join_conditionPieces : join w.conditionPieces = w.mergeCondition := by
  have target (k : String) : dotted ["t", k] = "t." ++ quoteName k :=
    (dotted_pair (by decide) k).trans String.append_assoc.symm
  have source (k : String) : " = " ++ dotted ["s", k] = " = s." ++ quoteName k := by
    rw [dotted_pair (by decide) k, ← String.append_assoc, ← String.append_assoc]
    rfl
  simp [conditionPieces, mergeCondition, target, source, String.append_assoc]

theorem join_assignments (row : String) (word : isWord row.toList) :
    join (w.assignments row) = ", ".intercalate
      (w.target.columns.map fun c => quoteName c ++ (" = " ++ row ++ ".") ++ quoteName c) := by
  simp [assignments, dotted_pair word, String.append_assoc]

theorem join_updatePieces : join w.updatePieces = w.mergeUpdate := by
  have assigned := w.join_assignments "s" (by decide)
  have mark : " = " ++ "s" ++ "." = " = s." := by decide
  rw [mark] at assigned
  unfold updatePieces mergeUpdate
  split
  next => exact join_singleton _
  next => exact assigned

theorem join_keyPieces :
    join w.keyPieces = ", ".intercalate (w.target.keyColumns.map quoteName) := by
  simp [keyPieces]

theorem join_actionPieces : join w.actionPieces = w.conflictAction := by
  have assigned := w.join_assignments "EXCLUDED" (by decide)
  have mark : " = " ++ "EXCLUDED" ++ "." = " = EXCLUDED." := by decide
  rw [mark] at assigned
  unfold actionPieces conflictAction
  split
  next => exact join_singleton _
  next => rw [join_cons, assigned, render_plain]

theorem render_eq_join : w.render = join w.pieces := by
  unfold render pieces
  cases w.target.strategy <;>
    simp only [join_append, join_cons, join_nil, render_plain, render_tableAsPiece,
      join_insertionPieces, join_conditionPieces, join_updatePieces, join_keyPieces,
      join_actionPieces, String.append_assoc, String.append_empty]

end Write

/-- A statement is its pieces, one behind the other. -/
theorem Statement.render_eq_join (s : Statement) : s.render = join s.pieces := by
  cases s with
  | view name query =>
      change "CREATE OR REPLACE TEMPORARY VIEW " ++ name ++ " AS\n" ++ query.render ++ ";\n" =
        join (.plain _ :: (query.pieces ++ [.plain ";\n"]))
      rw [join_cons, join_append, query.render_eq_join, String.append_assoc, join_singleton]
      rfl
  | write w => exact w.render_eq_join

end Render

theorem quoteless_of_item {text : String} (item : ∀ c ∈ text.toList, isItemChar c) :
    Quoteless text := by
  intro c member
  have own := item c member
  constructor <;> rintro rfl <;> exact absurd own (by decide)

section InPlace

variable {rest : String}

/-- A query is all text, or its name or value is in place. -/
theorem Query.inPlace (q : Query) (stops : Stops rest.toList) :
    (∀ p ∈ q.pieces, p.isPlain) ∨ InPlace q.pieces rest := by
  have selected {p : Piece} (stands : p.StandsBefore rest) :
      InPlace [.plain "SELECT * FROM ", p] rest :=
    inPlace_plain (by decide) (inPlace_singleton.mpr stands)
  cases q with
  | table schema name =>
      exact .inr (selected (standsBefore_name (tableParts_ne_nil schema name) stops))
  | file path => exact .inr (selected (standsBefore_value path stops))
  | stream topic => exact .inr (selected (standsBefore_name (List.cons_ne_nil topic []) stops))
  | _ => exact .inl (List.forall_mem_singleton.mpr rfl)

namespace Write

variable (w : Write)

/-- Two columns with a sign between them. -/
theorem inPlace_pair (a b : String) (left right : List String) (stops : Stops rest.toList) :
    InPlace [.name (a :: left), .plain " = ", .name (b :: right)] rest :=
  inPlace_name (List.cons_ne_nil a left) (by decide) <| inPlace_plain (by decide) <|
    inPlace_singleton.mpr (standsBefore_name (List.cons_ne_nil b right) stops)

theorem inPlace_conditionPieces (stops : Stops rest.toList) : InPlace w.conditionPieces rest := by
  refine inPlace_listed (by decide) (by decide) (fun k after stops => ?_) _ stops
  exact inPlace_pair "t" "s" [k] [k] stops

theorem inPlace_assignments (row : String) (stops : Stops rest.toList) :
    InPlace (w.assignments row) rest := by
  refine inPlace_listed (by decide) (by decide) (fun c after stops => ?_) _ stops
  exact inPlace_pair c row [] [c] stops

theorem inPlace_keyPieces (stops : Stops rest.toList) : InPlace w.keyPieces rest := by
  refine inPlace_listed (by decide) (by decide) (fun k after stops => ?_) _ stops
  exact inPlace_singleton.mpr (standsBefore_name (List.cons_ne_nil k []) stops)

theorem inPlace_updatePieces (stops : Stops rest.toList) : InPlace w.updatePieces rest := by
  unfold updatePieces
  split
  next => exact inPlace_plain (by decide) trivial
  next => exact w.inPlace_assignments "s" stops

theorem inPlace_actionPieces (stops : Stops rest.toList) : InPlace w.actionPieces rest := by
  unfold actionPieces
  split
  next => exact inPlace_plain (by decide) trivial
  next => exact inPlace_plain (by decide) (w.inPlace_assignments "EXCLUDED" stops)

theorem inPlace_table {text : String} (ends : text.toList.head?.any isStop)
    (quoteless : Quoteless text) {ps : List Piece} (back : InPlace ps rest) :
    InPlace (w.tableAsPiece :: .plain text :: ps) rest :=
  inPlace_name (tableParts_ne_nil _ _) ends (inPlace_plain quoteless back)

variable {w} (named : ∀ name ∈ w.inputs, IsRelationName name)

include named

theorem inPlace_insertionPieces {ps : List Piece} (back : InPlace ps rest) :
    InPlace (w.insertionPieces ++ ps) rest :=
  inPlace_plain (by decide) <| w.inPlace_table (by decide) (by decide) <|
    inPlace_plain (quoteless_of_item (isItemChar_of_mem_combined named)) back

theorem inPlace : InPlace w.pieces rest := by
  have last {text : String} (quoteless : Quoteless text) : InPlace [.plain text] rest :=
    inPlace_plain quoteless trivial
  unfold pieces
  cases w.target.strategy with
  | append => exact inPlace_insertionPieces named (last (by decide))
  | overwrite =>
      exact inPlace_plain (by decide) <| w.inPlace_table (by decide) (by decide) <|
        inPlace_insertionPieces named (last (by decide))
  | merge =>
      have item : Quoteless (aliased "s" w.inputs) :=
        quoteless_of_item (isItemChar_of_mem_aliased named (List.all_eq_true.mp (by decide)))
      refine inPlace_plain (by decide) <| w.inPlace_table (by decide) (by decide) <|
        inPlace_plain item <| inPlace_plain (by decide) ?_
      refine inPlace_append_plain w.inPlace_conditionPieces (by decide) ?_
      refine inPlace_plain (by decide) ?_
      exact inPlace_append_plain w.inPlace_updatePieces (by decide) (last (by decide))
  | upsert =>
      refine inPlace_insertionPieces named (inPlace_plain (by decide) ?_)
      refine inPlace_append_plain w.inPlace_keyPieces (by decide) (inPlace_plain (by decide) ?_)
      exact inPlace_append_plain w.inPlace_actionPieces (by decide) (last (by decide))

end Write

/-- A statement is all text, or all of its names and text values are in place. -/
theorem Statement.inPlace {s : Statement} (title : ∀ name ∈ s.viewName?, IsRelationName name)
    (named : ∀ name ∈ s.inputs, IsRelationName name) :
    (∀ p ∈ s.pieces, p.isPlain) ∨ InPlace s.pieces rest := by
  cases s with
  | view name query =>
      have front : Quoteless ("CREATE OR REPLACE TEMPORARY VIEW " ++ name ++ " AS\n") := by
        simp only [quoteless_append]
        exact ⟨⟨by decide, quoteless_of_item (title name rfl).isItemChar⟩, by decide⟩
      have stops : Stops (join [.plain ";\n"] ++ rest).toList := stops_join (by decide) [] rest
      have last : InPlace [.plain ";\n"] rest := inPlace_plain (by decide) trivial
      rcases query.inPlace stops with all | inner
      · refine .inl (List.forall_mem_cons.mpr ⟨rfl, List.forall_mem_append.mpr ⟨all, ?_⟩⟩)
        exact List.forall_mem_singleton.mpr rfl
      · exact .inr (inPlace_plain front (inPlace_append.mpr ⟨inner, last⟩))
  | write w => exact .inr (Write.inPlace named)

end InPlace

section Plan

variable {p : Pipeline} {c : Catalog}

theorem inPlace_of_plan {script : Script} (planned : plan p c = .ok script) {b : Block}
    (member : b ∈ script.blocks) :
    (∀ q ∈ b.statement.pieces, q.isPlain) ∨ InPlace b.statement.pieces "" := by
  obtain ⟨id, made⟩ := exists_planNode_of_mem planned member
  obtain ⟨title, named⟩ := isRelationName_of_planNode made
  exact Statement.inPlace title named

end Plan

/-- One reader takes every name apart into the parts it was put together from, those of tables and
single names of any characters, and another one every text value. So names of different parts are
never spelled alike. Every statement of a script is its pieces, one behind the other. If it has
names or text values at all, each of them, read from where it begins, gives what it was made of and
ends where the next piece begins, and no quotes stand outside of them. -/
theorem names_read_back :
    (∀ schema table, decodeName (tableName schema table) = some (tableParts schema table)) ∧
      (∀ name, decodeName (quoteName name) = some [name]) ∧
      (∀ text, decodeText (quoteText text) = some text) ∧
      Function.Injective dotted ∧
      ∀ p c script, plan p c = .ok script → ∀ b ∈ script.blocks,
        b.statement.render = join b.statement.pieces ∧
          ((∀ q ∈ b.statement.pieces, q.isPlain) ∨ InPlace b.statement.pieces "") := by
  refine ⟨fun schema table => ?_, fun name => ?_, decodeText_quoteText, dotted_injective,
    fun p c script planned b member => ⟨b.statement.render_eq_join, ?_⟩⟩
  · rw [tableName_eq]
    exact decodeName_dotted (tableParts_ne_nil schema table)
  · rw [← dotted_singleton]
    exact decodeName_dotted (List.cons_ne_nil name [])
  · exact inPlace_of_plan planned member

/-- A merge by a key with a dot, into a table with quotes and nothing between two dots. -/
def hostileMerge : Write where
  target := ⟨"dwh", some "my schema", "a\"b..c", .merge, ["k.1"], ["\"", "2nd"]⟩
  inputs := ["pw_A"]

/-- It reads a file whose path has a quote and a comment mark. -/
def hostileNames : Descriptor where
  id := "p"
  name := "P"
  nodes :=
    [⟨"A", "source-file", "", .ofList [("path", .text "it's; --.csv")]⟩,
     ⟨"B", "target-pg", "", .ofList
       [("connection", .text "dwh"), ("schema", .text "my schema"), ("table", .text "a\"b..c"),
        ("load_strategy", .text "merge"), ("key_columns", .list ["k.1"]),
        ("columns", .list ["\"", "2nd"])]⟩]
  edges := [⟨"A", "B"⟩]

theorem names_read_back_hostileNames :
    ∃ p script, Pipeline.ofDescriptor hostileNames = .ok p ∧ plan p Catalog.standard = .ok script ∧
      decodeText "'it''s; --.csv'" = some "it's; --.csv" ∧
      decodeName "\"my schema\".\"a\"\"b\".\"\".c" = some ["my schema", "a\"b", "", "c"] ∧
      ∃ b ∈ script.blocks, b.statement.render =
          "MERGE INTO \"my schema\".\"a\"\"b\".\"\".c AS t\nUSING pw_A AS s\n" ++
            "ON t.\"k.1\" = s.\"k.1\"\nWHEN MATCHED THEN UPDATE SET " ++
            "\"\"\"\" = s.\"\"\"\", \"2nd\" = s.\"2nd\"\nWHEN NOT MATCHED THEN INSERT *;\n" ∧
        InPlace b.statement.pieces "" := by
  obtain ⟨tables, -, texts, -, scripts⟩ := names_read_back
  obtain ⟨p, built⟩ : ∃ p, Pipeline.ofDescriptor hostileNames = .ok p := ⟨_, rfl⟩
  have facts : ((plan p Catalog.standard).toOption.map fun s => s.blocks.map (·.statement)) =
      some [.view "pw_A" (.file "it's; --.csv"), .write hostileMerge] := by
    cases built
    decide +kernel
  obtain ⟨script, planned, blocks⟩ := Option.map_eq_some_iff.mp facts
  have planned := Results.toOption_eq_some.mp planned
  obtain ⟨b, member, statement⟩ :
      ∃ b ∈ script.blocks, b.statement = .write hostileMerge := by
    rw [← List.mem_map, blocks]
    decide
  have named : ∃ q ∈ b.statement.pieces, q.isPlain = false := by
    rw [statement]
    decide +kernel
  obtain ⟨q, inside, other⟩ := named
  refine ⟨p, script, built, planned, ?_, ?_, b, member, ?_, ?_⟩
  · exact texts "it's; --.csv"
  · exact tables (some "my schema") "a\"b..c"
  · rw [statement]
    decide +kernel
  · refine (scripts p _ script planned b member).2.resolve_left fun all => ?_
    rw [all q inside] at other
    cases other

end Etl.Sql
