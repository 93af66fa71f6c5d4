import Etl.Proofs.Sql.Clause
import Etl.Proofs.Sql.Layout
import Etl.Proofs.Sql.Placeholder
import Etl.Proofs.Text

/-!
Semicolons behind queries written by hand. A view adds its own, and semicolons and blanks at the end
of the query are removed before, but only one run of each. So behind a query that has blanks between
two semicolons at its end there is one too many, and of a query that is nothing but semicolons
nothing is left.
-/

namespace Etl

namespace Sql

open Text

/-- A text that a semicolon can follow as its only one: it is given, and its last character is
neither a semicolon nor blank. -/
def EndsOpen (body : String) : Prop :=
  ∃ last, body.toList.getLast? = some last ∧ last ≠ ';' ∧ isBlankChar last = false

/-- A text at whose end blanks stand between semicolons. -/
def EndsTwice (text : String) : Prop :=
  ∃ front gap marks, text.toList = front ++ [';'] ++ gap ++ marks ∧ gap ≠ [] ∧
    (∀ c ∈ gap, isBlankChar c) ∧ marks ≠ [] ∧ ∀ c ∈ marks, c = ';'

/-- How the body of a view ends that is made from a query with this text. -/
structure Ending (text body : String) : Prop where
  blank : ∀ c ∈ body.toList.getLast?, isBlankChar c = false
  empty : body = "" ↔ ∀ c ∈ text.toList, c = ';'
  semicolon : body.toList.getLast? = some ';' ↔ EndsTwice text
  once : EndsOpen body ↔ (∃ c ∈ text.toList, c ≠ ';') ∧ ¬ EndsTwice text

section Bare

variable {query : String} (neat : Neat query)

include neat

/-- How a query is cut: what is kept of it, blanks, semicolons. -/
theorem toList_bare_eq_iff {front : List Char} : (bare query).toList = front ↔
    ∃ gap marks, query.toList = front ++ gap ++ marks ∧
      (∀ c ∈ gap, isBlankChar c) ∧ (∀ c ∈ marks, c = ';') ∧
      (∀ c ∈ front.getLast?, isBlankChar c = false) ∧ ∀ c ∈ (front ++ gap).getLast?, c ≠ ';' := by
  rw [bare, String.toList_ofList, neat.trimChars_eq, dropEndWhile_eq_iff]
  constructor
  · rintro ⟨⟨gap, kept, blank⟩, last⟩
    obtain ⟨⟨marks, whole, only⟩, ends⟩ := dropEndWhile_eq_iff.mp kept
    exact ⟨gap, marks, whole, blank, by simpa using only, last, by simpa using ends⟩
  · rintro ⟨gap, marks, whole, blank, only, last, ends⟩
    refine ⟨⟨gap, dropEndWhile_eq_iff.mpr ⟨⟨marks, whole, ?_⟩, ?_⟩, blank⟩, last⟩
    · simpa using only
    · simpa using ends

theorem isBlankChar_getLast?_bare : ∀ c ∈ (bare query).toList.getLast?, isBlankChar c = false := by
  obtain ⟨_, _, _, _, _, last, _⟩ := (toList_bare_eq_iff neat).mp rfl
  exact last

/-- Nothing is left exactly of semicolons. -/
theorem bare_eq_empty_iff : bare query = "" ↔ ∀ c ∈ query.toList, c = ';' := by
  rw [← String.toList_inj, String.toList_empty, toList_bare_eq_iff neat]
  constructor
  · rintro ⟨gap, marks, whole, blank, only, -, -⟩
    cases gap with
    | nil =>
        rw [whole]
        exact only
    | cons c gap =>
        -- A trimmed text does not begin with a blank.
        have first := neat.head c (by simp [whole])
        rw [blank c List.mem_cons_self] at first
        cases first
  · exact fun only => ⟨[], query.toList, rfl, by simp, only, by simp, by simp⟩

/-- A semicolon is left over where blanks stand between two of them. -/
theorem getLast?_bare_iff : (bare query).toList.getLast? = some ';' ↔ EndsTwice query := by
  constructor
  · intro last
    obtain ⟨front, kept⟩ := List.getLast?_eq_some_iff.mp last
    obtain ⟨gap, marks, whole, blank, only, -, ends⟩ := (toList_bare_eq_iff neat).mp kept
    have gapped : gap ≠ [] := by
      rintro rfl
      exact ends ';' (by simp) rfl
    refine ⟨front, gap, marks, whole, gapped, blank, ?_, only⟩
    rintro rfl
    -- A trimmed text does not end in a blank.
    have final := neat.last (gap.getLast gapped) <| by
      rw [whole, List.append_nil, List.getLast?_append_of_ne_nil _ gapped]
      exact List.getLast?_eq_some_getLast gapped
    rw [blank _ (List.getLast_mem gapped)] at final
    cases final
  · rintro ⟨front, gap, marks, whole, gapped, blank, -, only⟩
    have kept : (bare query).toList = front ++ [';'] := by
      refine (toList_bare_eq_iff neat).mpr ⟨gap, marks, whole, blank, only, ?_, ?_⟩
      · simp
        decide
      · intro c last
        rw [List.getLast?_append_of_ne_nil _ gapped] at last
        rintro rfl
        exact absurd (blank _ (List.mem_of_getLast? last)) (by decide)
    rw [kept, List.getLast?_concat]

end Bare

section Filled

variable {inputs : List String} (named : ∀ name ∈ inputs, IsRelationName name)

include named

/-- What stands for a place ends in a character of a word. -/
theorem exists_last_of_mem_places : ∀ e ∈ places inputs,
    ∃ c, e.2.toList.getLast? = some c ∧ isWordChar c := by
  have ofName {name : String} (h : IsRelationName name) :
      ∃ c, name.toList.getLast? = some c ∧ isWordChar c := by
    have some : name.toList ≠ [] := h.marked.ne_nil (by decide)
    exact ⟨_, List.getLast?_eq_some_getLast some, h.word _ (List.getLast_mem some)⟩
  intro e member
  rcases List.mem_append.mp member with numbered | last
  · obtain ⟨⟨i, name⟩, inside, rfl⟩ := List.mem_map.mp numbered
    exact ofName (named name (List.of_mem_zip inside).2)
  · rw [List.mem_singleton.mp last]
    unfold combined
    split
    next single =>
      obtain ⟨name, rfl⟩ := List.length_eq_one_iff.mp single
      exact ofName (named name List.mem_cons_self)
    next =>
      refine ⟨'t', ?_, by decide⟩
      rw [aliased, String.toList_append, List.getLast?_append_of_ne_nil _ (by decide)]
      decide

/-- Filling a query does not change what it ends in, words apart. -/
theorem getLast?_fillPlaces (test : Char → Bool) (brace : test '\x7d' = false)
    (word : ∀ c, isWordChar c → test c = false) (query : String) :
    (fillPlaces query inputs).toList.getLast?.map test = (bare query).toList.getLast?.map test := by
  rw [fillPlaces_eq_pass named, Text.pass, String.toList_ofList]
  refine getLast?_passChars (independent_places named) brace (fun e member => ?_) _
  obtain ⟨c, last, inWord⟩ := exists_last_of_mem_places named e member
  rw [last, Option.map_some, word c inWord]

theorem fillPlaces_eq_empty_iff (query : String) :
    fillPlaces query inputs = "" ↔ bare query = "" := by
  have same := getLast?_fillPlaces named (fun _ => false) rfl (fun _ _ => rfl) query
  rw [← String.toList_eq_nil_iff, ← String.toList_eq_nil_iff, ← List.getLast?_eq_none_iff,
    ← List.getLast?_eq_none_iff, ← Option.map_eq_none_iff, same, Option.map_eq_none_iff]

theorem getLast?_fillPlaces_iff {c : Char} (brace : c ≠ '\x7d') (word : isWordChar c = false)
    (query : String) :
    (fillPlaces query inputs).toList.getLast? = some c ↔ (bare query).toList.getLast? = some c := by
  have same := getLast?_fillPlaces named (· == c) (by simpa using Ne.symm brace)
    (fun other inWord => by
      rw [beq_eq_false_iff_ne]
      rintro rfl
      rw [inWord] at word
      cases word) query
  have alike {text : List Char} : text.getLast? = some c ↔
      text.getLast?.map (· == c) = some true := by
    simp
  rw [alike, same, ← alike]

theorem ending_fillPlaces {query : String} (neat : Neat query) :
    Ending query (fillPlaces query inputs) := by
  have blank : ∀ c ∈ (fillPlaces query inputs).toList.getLast?, isBlankChar c = false := by
    intro c last
    by_contra blank
    rw [Bool.not_eq_false] at blank
    have brace : c ≠ '\x7d' := by
      rintro rfl
      exact absurd blank (by decide)
    have word : isWordChar c = false := by
      by_contra word
      rw [isBlankChar_of_isWordChar (by simpa using word)] at blank
      cases blank
    have before := (getLast?_fillPlaces_iff named brace word query).mp last
    rw [isBlankChar_getLast?_bare neat c before] at blank
    cases blank
  have empty := (fillPlaces_eq_empty_iff named query).trans (bare_eq_empty_iff neat)
  have semicolon := (getLast?_fillPlaces_iff named (by decide) (by decide) query).trans
    (getLast?_bare_iff neat)
  refine ⟨blank, empty, semicolon, ?_⟩
  have given : (∃ c ∈ query.toList, c ≠ ';') ↔ fillPlaces query inputs ≠ "" := by
    rw [Ne, empty]
    push Not
    rfl
  rw [given, ← semicolon]
  constructor
  · rintro ⟨last, ends, other, -⟩
    refine ⟨?_, ?_⟩
    · intro nothing
      simp [nothing] at ends
    · rw [ends, Option.some.injEq]
      exact other
  · rintro ⟨some, other⟩
    have some := String.toList_eq_nil_iff.not.mpr some
    have ends := List.getLast?_eq_some_getLast some
    refine ⟨_, ends, fun same => other (same ▸ ends), blank _ ends⟩

end Filled

end Sql

namespace Compiler

open Sql

/-- How a view over a query written by hand ends, for every query that the configuration of a node
can hold. The one semicolon behind it is that of the view, unless blanks stand between semicolons at
the end of the query or it has nothing but semicolons. -/
theorem ending_of_generate (c : Compiler) {p : Pipeline} (h : p.Reachable) {sql : String}
    (generated : c.generate p .sql = .ok sql) :
    ∃ script, plan p c.catalog = .ok script ∧ sql = script.render ∧
      ∀ id node type text, p.node? id = some node → c.catalog.get? node.type = some type →
        Settings.project node type = .ok (.transform (.query text)) →
        (∃ raw, node.effective? type "query" = some (.text raw) ∧ text = Text.trim raw) ∧
        ∃ name b, (relationNames p).lookup id = some name ∧ b ∈ script.sorted ∧ b.node = id ∧
          ∃ body, b.statement.render =
              "CREATE OR REPLACE TEMPORARY VIEW " ++ name ++ " AS\n" ++ body ++ ";\n" ∧
            body = fillPlaces text (inputsOf p id) ∧ Ending text body := by
  obtain ⟨script, planned, rendered⟩ := c.exists_plan_of_generate generated
  refine ⟨script, planned, rendered, ?_⟩
  intro id node type text found registered projected
  have sound := h.wellFormed
  obtain ⟨-, made⟩ := Settings.project_eq_ok projected
  obtain ⟨-, given⟩ := Settings.ofTransform_eq_ok.mp made
  obtain ⟨raw, effective, -, trimmed⟩ :=
    Settings.Source.text?_eq_ok_some.mp (Settings.Source.text_eq_ok.mp given)
  refine ⟨⟨raw, effective, trimmed.symm⟩, ?_⟩
  have present : p.containsNode id := Pipeline.containsNode_iff.mpr ⟨node, found⟩
  obtain ⟨b, member, key⟩ := exists_block sound planned present
  obtain ⟨name, named⟩ := exists_relationName present
  have block := planNode_of_mem sound planned member
  rw [key] at block
  have whole := planNode_eq_ok.mpr ⟨node, type, _, found, registered, projected, rfl⟩
  rw [named, Option.getD_some, block, Except.ok.injEq] at whole
  refine ⟨name, b, named, Script.mem_sorted.mpr member, key, fillPlaces text (inputsOf p id), ?_,
    rfl, ?_⟩
  · rw [whole]
    rfl
  · exact ending_fillPlaces (fun _ => isRelationName_of_mem_inputsOf)
      (Settings.ofTransform_complete made)

/-- A query that ends in a semicolon, a blank and another semicolon. -/
def spacedSemicolons : Descriptor where
  id := "p"
  name := "P"
  nodes :=
    [⟨"A", "source-pg", "", .ofList [("connection", .text "dwh"), ("table", .text "orders")]⟩,
     ⟨"B", "transform-sql", "", .ofList [("query", .text "SELECT * FROM \x7b\x7binput\x7d\x7d; ; ")]⟩,
     ⟨"C", "quality-check", "",
       .ofList [("rule", .text "completeness"), ("column", .text "id")]⟩,
     ⟨"D", "target-pg", "", .ofList [("connection", .text "dwh"), ("table", .text "daily")]⟩]
  edges := [⟨"A", "B"⟩, ⟨"B", "C"⟩, ⟨"C", "D"⟩]

/-- The view over it ends in two semicolons. -/
theorem ending_of_generate_spacedSemicolons :
    let c : Compiler := ⟨Catalog.standard, default⟩
    ∃ p sql script b body, Pipeline.ofDescriptor spacedSemicolons = .ok p ∧
      c.generate p .sql = .ok sql ∧ plan p c.catalog = .ok script ∧ sql = script.render ∧
      b ∈ script.sorted ∧ b.statement.render =
        "CREATE OR REPLACE TEMPORARY VIEW pw_B AS\n" ++ body ++ ";\n" ∧
      body.toList.getLast? = some ';' ∧ ¬ EndsOpen body := by
  intro c
  obtain ⟨p, built⟩ : ∃ p, Pipeline.ofDescriptor spacedSemicolons = .ok p := ⟨_, rfl⟩
  have h : p.Reachable := .loaded built
  obtain ⟨sql, generated⟩ : ∃ sql, c.generate p .sql = .ok sql := by
    refine c.exists_generate_of_clean h.wellFormed ?_ .sql
    cases built
    decide +kernel
  obtain ⟨script, planned, rendered, each⟩ := c.ending_of_generate h generated
  have facts : (relationNames p).lookup "B" = some "pw_B" ∧
      ((p.node? "B").bind fun node => (c.catalog.get? node.type).bind fun type =>
        (Settings.project node type).toOption) =
          some (.transform (.query "SELECT * FROM \x7b\x7binput\x7d\x7d; ;")) := by
    cases built
    decide +kernel
  obtain ⟨named, settings⟩ := facts
  obtain ⟨node, found, settings⟩ := Option.bind_eq_some_iff.mp settings
  obtain ⟨type, registered, settings⟩ := Option.bind_eq_some_iff.mp settings
  have projected := Results.toOption_eq_some.mp settings
  obtain ⟨-, name, b, looked, member, -, body, view, -, ending⟩ :=
    each "B" node type _ found registered projected
  obtain rfl := Option.some.inj (named.symm.trans looked)
  have twice : EndsTwice "SELECT * FROM \x7b\x7binput\x7d\x7d; ;" :=
    ⟨"SELECT * FROM \x7b\x7binput\x7d\x7d".toList, [' '], [';'], by decide, by decide,
      List.forall_mem_singleton.mpr (by decide), by decide, List.forall_mem_singleton.mpr rfl⟩
  exact ⟨p, sql, script, b, body, built, generated, planned, rendered, member, view,
    ending.semicolon.mpr twice, fun once => (ending.once.mp once).2 twice⟩

end Compiler

end Etl
