import Etl.Proofs.Sql.Plan
import Etl.Proofs.Sql.Relation
import Etl.Proofs.Text

/-!
What a statement reads from. Behind its FROM or USING stands one relation, or the union of several
under an alias. The names can be read back from that text: they are the words in it that begin as
relation names do.
-/

namespace Etl

/-- Settings whose statement has one relation to read from. Those of sources have none, and a query
written by hand places its inputs itself. -/
def Settings.HasItem (settings : Settings) : Prop :=
  settings.category ≠ .source ∧ ∀ text, settings ≠ .transform (.query text)

namespace Sql

/-- Names that can stand for the relation of a node. -/
structure IsRelationName (name : String) : Prop where
  word : ∀ c ∈ name.toList, isWordChar c
  marked : "pw_".toList <+: name.toList

/-- The words of a text that begin as relation names do. -/
def relationsIn (text : String) : List String :=
  ((text.toList.splitOnP fun c => !isWordChar c).filter "pw_".toList.isPrefixOf).map String.ofList

theorem relationsIn_name {name : String} (h : IsRelationName name) : relationsIn name = [name] := by
  have whole : name.toList.splitOnP (fun c => !isWordChar c) = [name.toList] :=
    List.splitOnP_eq_singleton fun c member => by simp [h.word c member]
  have kept := List.isPrefixOf_iff_prefix.mpr h.marked
  rw [relationsIn, whole, List.filter_cons_of_pos kept, List.filter_nil, List.map_singleton,
    String.ofList_toList]

/-- Words do not run over a character that no word has. -/
theorem relationsIn_append (cut : Char) (ends : isWordChar cut = false) (a b : String) :
    relationsIn (a ++ String.singleton cut ++ b) = relationsIn a ++ relationsIn b := by
  have cuts : (!isWordChar cut) = true := by simp [ends]
  have parts := List.splitOnP_append_cons (p := fun c => !isWordChar c) a.toList b.toList cuts
  rw [relationsIn, String.toList_append, String.toList_append, String.toList_singleton,
    List.append_assoc, List.singleton_append, parts, List.filter_append, List.map_append]
  rfl

theorem relationsIn_select {name : String} (h : IsRelationName name) :
    relationsIn ("SELECT * FROM " ++ name) = [name] := by
  have first : relationsIn "SELECT * FROM" = [] := by decide
  have cut := relationsIn_append ' ' (by decide) "SELECT * FROM" name
  rw [first, relationsIn_name h] at cut
  exact cut

theorem relationsIn_append_union (a b : String) :
    relationsIn (a ++ " UNION ALL " ++ b) = relationsIn a ++ relationsIn b := by
  have middle : relationsIn "UNION ALL" = [] := by decide
  have first := relationsIn_append ' ' (by decide) a "UNION ALL"
  have second := relationsIn_append ' ' (by decide) (a ++ " " ++ "UNION ALL") b
  rw [middle, List.append_nil] at first
  have same : a ++ " UNION ALL " ++ b = a ++ " " ++ "UNION ALL" ++ " " ++ b := by
    simp only [String.append_assoc]
    rfl
  rw [same]
  exact second.trans (congrArg (· ++ relationsIn b) first)

theorem relationsIn_union {names : List String} (h : ∀ name ∈ names, IsRelationName name) :
    relationsIn (" UNION ALL ".intercalate (names.map fun name => "SELECT * FROM " ++ name)) =
      names := by
  induction names with
  | nil => decide
  | cons name names ih =>
      obtain ⟨first, rest⟩ := List.forall_mem_cons.mp h
      cases names with
      | nil => simpa using relationsIn_select first
      | cons next names =>
          rw [List.map_cons, String.intercalate_cons_of_ne_nil (by simp), relationsIn_append_union,
            relationsIn_select first, ih rest, List.singleton_append]

theorem relationsIn_relation {names : List String} (h : ∀ name ∈ names, IsRelationName name) :
    relationsIn (relation names) = names := by
  unfold relation
  split
  next single => exact relationsIn_name (h single List.mem_cons_self)
  next =>
    have none : relationsIn "" = [] := by decide
    have opened := relationsIn_append '(' (by decide) ""
      (" UNION ALL ".intercalate (names.map fun name => "SELECT * FROM " ++ name))
    have closed := relationsIn_append ')' (by decide)
      ("" ++ "(" ++ " UNION ALL ".intercalate (names.map fun name => "SELECT * FROM " ++ name)) ""
    rw [none, relationsIn_union h, List.nil_append] at opened
    rw [none, List.append_nil] at closed
    simpa using closed.trans opened

/-- An alias is no relation of a node. -/
theorem relationsIn_aliased {names : List String} (h : ∀ name ∈ names, IsRelationName name)
    {label : String} (plain : relationsIn ("AS " ++ label) = []) :
    relationsIn (aliased label names) = names := by
  have cut := relationsIn_append ' ' (by decide) (relation names) ("AS " ++ label)
  rw [plain, List.append_nil, relationsIn_relation h] at cut
  have space : " AS " = String.singleton ' ' ++ "AS " := by decide
  rw [aliased, space, ← String.append_assoc, String.append_assoc]
  exact cut

theorem relationsIn_combined {names : List String} (h : ∀ name ∈ names, IsRelationName name) :
    relationsIn (combined names) = names := by
  unfold combined
  split
  · exact relationsIn_relation h
  · exact relationsIn_aliased h (by decide)

/-- The characters of what a statement reads from: those of words, blanks, brackets and stars. -/
def isItemChar (c : Char) : Bool := isWordChar c || [' ', '(', ')', '*'].contains c

theorem IsRelationName.isItemChar {name : String} (h : IsRelationName name) :
    ∀ c ∈ name.toList, isItemChar c := fun c member =>
  Bool.or_eq_true_iff.mpr (.inl (h.word c member))

section ItemChars

variable {names : List String} (named : ∀ name ∈ names, IsRelationName name)

include named

theorem isItemChar_of_mem_relation : ∀ c ∈ (relation names).toList, isItemChar c := by
  unfold relation
  split
  next single => exact (named single List.mem_cons_self).isItemChar
  next =>
    have union : ∀ c ∈ (" UNION ALL ".intercalate
        (names.map fun name => "SELECT * FROM " ++ name)).toList, isItemChar c := by
      refine Text.forall_mem_intercalate (List.all_eq_true.mp (by decide)) fun item member => ?_
      obtain ⟨name, inside, rfl⟩ := List.mem_map.mp member
      rw [String.toList_append, List.forall_mem_append]
      exact ⟨List.all_eq_true.mp (by decide), (named name inside).isItemChar⟩
    rw [String.toList_append, String.toList_append]
    simp only [List.forall_mem_append]
    exact ⟨⟨List.all_eq_true.mp (by decide), union⟩, List.all_eq_true.mp (by decide)⟩

theorem isItemChar_of_mem_aliased {label : String} (word : ∀ c ∈ label.toList, isItemChar c) :
    ∀ c ∈ (aliased label names).toList, isItemChar c := by
  rw [aliased, String.toList_append, String.toList_append]
  simp only [List.forall_mem_append]
  exact ⟨⟨isItemChar_of_mem_relation named, List.all_eq_true.mp (by decide)⟩, word⟩

theorem isItemChar_of_mem_combined : ∀ c ∈ (combined names).toList, isItemChar c := by
  unfold combined
  split
  · exact isItemChar_of_mem_relation named
  · exact isItemChar_of_mem_aliased named (List.all_eq_true.mp (by decide))

end ItemChars

theorem isWordChar_of_isDigit {c : Char} (digit : c.isDigit) : isWordChar c := by
  simp only [Char.isDigit, Bool.and_eq_true, decide_eq_true_eq] at digit
  have own : isDigit c := by
    simp only [isDigit, Bool.and_eq_true, decide_eq_true_eq]
    exact digit
  simp [isWordChar, own]

theorem isRelationName_viewName (id : NodeId) : IsRelationName (viewName id) where
  word := by
    intro c member
    rw [viewName, String.toList_append, List.mem_append] at member
    rcases member with mark | member
    · have all : "pw_".toList.all isWordChar := by decide
      exact List.all_eq_true.mp all c mark
    · rw [sanitize, String.toList_ofList] at member
      obtain ⟨d, -, rfl⟩ := List.mem_map.mp member
      split
      next word => exact word
      next => decide
  marked := by
    rw [viewName, String.toList_append]
    exact List.prefix_append _ _

theorem isRelationName_candidate (id : NodeId) (k : Nat) :
    IsRelationName (candidate (viewName id) k) := by
  have base := isRelationName_viewName id
  cases k with
  | zero => exact base
  | succ k =>
      constructor
      · intro c member
        simp only [candidate, String.toList_append, List.mem_append] at member
        rcases member with (member | mark) | number
        · exact base.word c member
        · have all : "_".toList.all isWordChar := by decide
          exact List.all_eq_true.mp all c mark
        · rw [Nat.toString_eq_repr, Nat.toList_repr] at number
          exact isWordChar_of_isDigit (Nat.isDigit_of_mem_toDigits (by decide) (by decide) number)
      · rw [candidate, String.append_assoc, String.toList_append]
        exact base.marked.trans (List.prefix_append _ _)

variable {p : Pipeline} {c : Catalog}

theorem isRelationName_of_lookup {id : NodeId} {name : String}
    (named : (relationNames p).lookup id = some name) : IsRelationName name := by
  obtain ⟨k, rfl⟩ := exists_candidate_of_lookup named
  exact isRelationName_candidate id k

/-- What a node reads, name by name. -/
theorem forall₂_inputsOf (h : p.WellFormed) (id : NodeId) :
    List.Forall₂ (fun source name => (relationNames p).lookup source = some name)
      (p.predecessors id) (inputsOf p id) := by
  have named : ∀ source ∈ p.predecessors id,
      ∃ name, (relationNames p).lookup source = some name := by
    intro source edge
    have ends := h.containsNode_of_mem_successors
      (h.mem_predecessors_iff_mem_successors.mp edge)
    exact exists_relationName ends.1
  rw [inputsOf]
  generalize p.predecessors id = sources at named
  induction sources with
  | nil => exact .nil
  | cons source sources ih =>
      obtain ⟨⟨name, first⟩, rest⟩ := List.forall_mem_cons.mp named
      simp only [List.filterMap_cons, first]
      exact .cons first (ih rest)

theorem isRelationName_of_mem_inputsOf {id : NodeId} {name : String}
    (member : name ∈ inputsOf p id) : IsRelationName name := by
  obtain ⟨_, _, named⟩ := List.mem_filterMap.mp member
  exact isRelationName_of_lookup named

/-- A statement names only relations of nodes. -/
theorem isRelationName_of_planNode {id : NodeId} {b : Block}
    (planned : planNode p c (relationNames p) id = .ok b) :
    (∀ name ∈ b.statement.viewName?, IsRelationName name) ∧
      ∀ name ∈ b.statement.inputs, IsRelationName name := by
  obtain ⟨node, type, settings, found, _, _, rfl⟩ := planNode_eq_ok.mp planned
  obtain ⟨own, looked⟩ := exists_relationName (SortedMap.contains_iff.mpr ⟨_, found⟩)
  have title : ∀ name ∈ some (((relationNames p).lookup id).getD id), IsRelationName name := by
    rintro _ ⟨⟩
    rw [looked]
    exact isRelationName_of_lookup looked
  have inputs : ∀ name ∈ inputsOf p id, IsRelationName name := fun _ =>
    isRelationName_of_mem_inputsOf
  cases settings with
  | source t =>
      refine ⟨title, ?_⟩
      cases t <;> exact nofun
  | transform t =>
      refine ⟨title, ?_⟩
      cases t <;> exact inputs
  | check t => exact ⟨title, inputs⟩
  | target t => exact ⟨nofun, inputs⟩

/-- A text that does not run on a word in front of it. -/
def Apart (text : String) : Prop := ∃ cut, text.toList.head? = some cut ∧ isWordChar cut = false

theorem Apart.append {text : String} (apart : Apart text) (rest : String) :
    Apart (text ++ rest) := by
  obtain ⟨cut, first, ends⟩ := apart
  refine ⟨cut, ?_, ends⟩
  rw [String.toList_append, List.head?_append, first, Option.some_or]

namespace Query

/-- A query up to its FROM. -/
def front : Query → String
  | aggregate _ groupBy aggregates _ =>
    "SELECT " ++ ", ".intercalate (groupBy ++ aggregates) ++ " FROM "
  | _ => "SELECT * FROM "

/-- Whether a query has one relation to read from. -/
def HasItem : Query → Prop
  | all _ | filter .. | aggregate .. => True
  | _ => False

theorem exists_front_eq (query : Query) : ∃ start, query.front = start ++ "FROM " := by
  cases query with
  | aggregate inputs groupBy aggregates condition =>
      have columns (list : String) : "SELECT " ++ list ++ (" " ++ "FROM ") =
          "SELECT " ++ list ++ " " ++ "FROM " := String.append_assoc.symm
      exact ⟨_, columns _⟩
  | _ => exact ⟨"SELECT * ", rfl⟩

theorem exists_render_eq {query : Query} (has : query.HasItem) :
    ∃ back, query.render = query.front ++ combined query.inputs ++ back ∧
      Apart (back ++ ";\n") := by
  have semicolon : Apart ";\n" := ⟨';', by decide, by decide⟩
  have word {text : String} (space : text.toList.head? = some ' ') (rest : String) :
      Apart (text ++ rest) := Apart.append ⟨' ', space, by decide⟩ rest
  cases query with
  | all inputs => exact ⟨"", String.append_empty.symm, semicolon⟩
  | filter inputs condition =>
      exact ⟨" WHERE " ++ condition, String.append_assoc, (word (by decide) condition).append _⟩
  | aggregate inputs groupBy aggregates condition =>
      have grouped : Apart ((if groupBy.isEmpty then "" else " GROUP BY " ++
          ", ".intercalate groupBy) ++ ";\n") := by
        split
        · exact semicolon
        · exact (word (by decide) _).append _
      cases condition with
      | none => exact ⟨"" ++ _, String.append_assoc, String.empty_append.symm ▸ grouped⟩
      | some condition =>
          exact ⟨" WHERE " ++ condition ++ _, String.append_assoc,
            ((word (by decide) condition).append _).append _⟩
  | _ => exact has.elim

end Query

namespace Write

variable (w : Write)

/-- A write up to its FROM or USING. -/
def front : String :=
  match w.target.strategy with
  | .append => "INSERT INTO " ++ w.table ++ "\nSELECT * FROM "
  | .overwrite =>
    "TRUNCATE TABLE " ++ w.table ++ ";\n" ++ ("INSERT INTO " ++ w.table ++ "\nSELECT * FROM ")
  | .merge => "MERGE INTO " ++ w.table ++ " AS t\nUSING "
  | .upsert => "INSERT INTO " ++ w.table ++ "\nSELECT * FROM "

/-- The relation that a write reads. -/
def item : String :=
  match w.target.strategy with
  | .merge => aliased "s" w.inputs
  | .append | .overwrite | .upsert => combined w.inputs

theorem exists_front_eq :
    ∃ start, w.front = start ++ "FROM " ∨ w.front = start ++ "USING " := by
  have cut (front last word : String) : front ++ (last ++ word) = front ++ last ++ word :=
    String.append_assoc.symm
  unfold front
  split
  next => exact ⟨_, .inl (cut _ "\nSELECT * " "FROM ")⟩
  next => exact ⟨_, .inl ((cut _ _ _).trans (cut _ "\nSELECT * " "FROM "))⟩
  next => exact ⟨_, .inr (cut _ " AS t\n" "USING ")⟩
  next => exact ⟨_, .inl (cut _ "\nSELECT * " "FROM ")⟩

theorem exists_render_eq : ∃ back, w.render = w.front ++ w.item ++ back ∧ Apart back := by
  have semicolon : Apart ";\n" := ⟨';', by decide, by decide⟩
  have line {text : String} (newline : text.toList.head? = some '\n') (rest : String) :
      Apart (text ++ rest) := Apart.append ⟨'\n', newline, by decide⟩ rest
  unfold render front item insertion
  cases w.target.strategy with
  | append => exact ⟨";\n", rfl, semicolon⟩
  | overwrite =>
      refine ⟨";\n", ?_, semicolon⟩
      simp only [String.append_assoc]
  | merge =>
      refine ⟨"\nON " ++ (w.mergeCondition ++ "\nWHEN MATCHED THEN UPDATE SET " ++
        w.mergeUpdate ++ "\nWHEN NOT MATCHED THEN INSERT *;\n"), ?_, line (by decide) _⟩
      simp only [String.append_assoc]
  | upsert =>
      refine ⟨"\nON CONFLICT (" ++ (", ".intercalate (w.target.keyColumns.map quoteName) ++
        ") " ++ w.conflictAction ++ ";\n"), ?_, line (by decide) _⟩
      simp only [String.append_assoc]

theorem relationsIn_item (named : ∀ name ∈ w.inputs, IsRelationName name) :
    relationsIn w.item = w.inputs := by
  unfold item
  split
  · exact relationsIn_aliased named (by decide)
  all_goals exact relationsIn_combined named

end Write

namespace Statement

/-- A statement up to its FROM or USING. -/
def front : Statement → String
  | view name query => "CREATE OR REPLACE TEMPORARY VIEW " ++ name ++ " AS\n" ++ query.front
  | write w => w.front

/-- The relation that a statement reads. -/
def item : Statement → String
  | view _ query => combined query.inputs
  | write w => w.item

/-- Behind a FROM or USING, a statement reads the relations with these names. -/
structure ReadsFrom (s : Statement) (names : List String) : Prop where
  front : ∃ start, s.front = start ++ "FROM " ∨ s.front = start ++ "USING "
  text : ∃ back, s.render = s.front ++ s.item ++ back ∧ Apart back
  names : relationsIn s.item = names

theorem readsFrom_view (name : String) {query : Query} (has : query.HasItem)
    (named : ∀ name ∈ query.inputs, IsRelationName name) :
    (view name query).ReadsFrom query.inputs := by
  obtain ⟨start, front⟩ := query.exists_front_eq
  obtain ⟨back, text, apart⟩ := query.exists_render_eq has
  refine ⟨⟨"CREATE OR REPLACE TEMPORARY VIEW " ++ name ++ " AS\n" ++ start, .inl ?_⟩,
    ⟨back ++ ";\n", ?_, apart⟩, relationsIn_combined named⟩
  · show _ ++ query.front = _
    rw [front]
    exact String.append_assoc.symm
  · show _ ++ query.render ++ _ = _ ++ query.front ++ _ ++ _
    simp only [text, item, String.append_assoc]

theorem readsFrom_write {w : Write} (named : ∀ name ∈ w.inputs, IsRelationName name) :
    (write w).ReadsFrom w.inputs := by
  obtain ⟨start, front⟩ := w.exists_front_eq
  obtain ⟨back, text, apart⟩ := w.exists_render_eq
  exact ⟨⟨start, front⟩, ⟨back, text, apart⟩, w.relationsIn_item named⟩

end Statement

theorem readsFrom_blockOf (node : Node) (name : String) {inputs : List String} {settings : Settings}
    (has : settings.HasItem) (named : ∀ name ∈ inputs, IsRelationName name) :
    (blockOf node name inputs settings).statement.ReadsFrom inputs := by
  cases settings with
  | source s => exact absurd rfl has.1
  | transform t =>
      cases t with
      | filter condition => exact Statement.readsFrom_view _ trivial named
      | aggregate groupBy aggregates condition => exact Statement.readsFrom_view _ trivial named
      | query text => exact absurd rfl (has.2 text)
  | check c => exact Statement.readsFrom_view _ trivial named
  | target t => exact Statement.readsFrom_write named

end Sql

end Etl
