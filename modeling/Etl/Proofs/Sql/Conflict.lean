import Etl.Proofs.Catalog.Registration
import Etl.Proofs.Pipeline.Conformance
import Etl.Proofs.Settings.Complete
import Etl.Proofs.Settings.Reading
import Etl.Proofs.Sql.Layout
import Etl.Proofs.Validation.Policy

/-!
Rows in conflict. A write that upserts without columns leaves them as they are, and validation warns
about that. Both go back to the same two fields of the node, but the settings take the load strategy
without the blanks around it and the warning takes it as it stands, so no warning comes where a type
lets the strategy be written with blanks.
-/

namespace Etl

namespace Settings

variable {s : Source} {t : TargetSettings}

/-- A target upserts exactly if its strategy is the name of that, with or without blanks around. -/
theorem strategy_eq_upsert (made : ofTarget s = .ok t) :
    t.strategy = .upsert ↔ ∃ raw, s.node.effective? s.type "load_strategy" = some (.text raw) ∧
      Text.trim raw = "upsert" := by
  obtain ⟨strategy, _, chosen, set, _⟩ := ofTarget_eq_ok made
  constructor
  · intro upserts
    cases strategy with
    | none => cases set.trans upserts
    | some strategy =>
        obtain rfl : strategy = .upsert := set.trans upserts
        obtain ⟨text, read, parsed⟩ := Source.choice?_eq_ok_some.mp chosen
        obtain ⟨raw, given, _, rfl⟩ := Source.text?_eq_ok_some.mp read
        exact ⟨raw, given, LoadStrategy.parse_eq_ok.mp parsed⟩
  · rintro ⟨raw, given, named⟩
    have some : Text.isBlank raw = false := Text.isBlank_of_trim named (by decide)
    have read := Source.text?_eq_ok_some.mpr ⟨raw, given, some, named⟩
    have upserts := Source.choice?_eq_ok_some.mpr
      ⟨"upsert", read, LoadStrategy.parse_eq_ok (s := .upsert).mpr rfl⟩
    rw [upserts] at chosen
    obtain rfl := Except.ok.inj chosen
    exact set.symm

theorem columns_eq_nil (made : ofTarget s = .ok t) : t.columns = [] ↔ s.has "columns" = false := by
  obtain ⟨_, _, _, _, _, _, _, _, _, _, columns⟩ := ofTarget_eq_ok made
  rw [← Bool.not_eq_true, Source.has_iff_of_list columns, not_not]

end Settings

namespace Sql.Write

variable (w : Write)

/-- The write that adds rows and leaves those in conflict as they are. -/
def keeping : String :=
  w.insertion ++ "\nON CONFLICT (" ++ ", ".intercalate (w.target.keyColumns.map quoteName) ++
    ") DO NOTHING;\n"

theorem conflictAction_eq_iff : w.conflictAction = "DO NOTHING" ↔ w.ignoresConflicts := by
  unfold conflictAction
  split
  next ignores => exact iff_of_true rfl ignores
  next acts =>
    refine iff_of_false (fun same => ?_) acts
    have same := congrArg String.toList same
    simp [String.toList_append] at same

/-- A write is the one that leaves rows in conflict only if it is meant to be. -/
theorem render_eq_keeping_iff : w.render = w.keeping ↔ w.ignoresConflicts := by
  have other (strategy : w.target.strategy ≠ .upsert) : ¬ w.ignoresConflicts := by
    simp [ignoresConflicts, strategy]
  unfold render keeping
  cases strategy : w.target.strategy with
  | append =>
      refine iff_of_false (fun same => ?_) (other (by simp [strategy]))
      change w.insertion ++ _ = _ at same
      simp only [String.append_assoc, String.append_right_inj] at same
      have same := congrArg String.toList same
      simp [String.toList_append] at same
  | overwrite =>
      refine iff_of_false (fun same => ?_) (other (by simp [strategy]))
      change "TRUNCATE TABLE " ++ _ ++ _ ++ _ ++ _ = _ at same
      have same := congrArg String.toList same
      simp [String.toList_append, insertion] at same
  | merge =>
      refine iff_of_false (fun same => ?_) (other (by simp [strategy]))
      change "MERGE INTO " ++ _ ++ _ ++ _ ++ _ ++ _ ++ _ ++ _ ++ _ = _ at same
      have same := congrArg String.toList same
      simp [String.toList_append, insertion] at same
  | upsert =>
      have ends : ") DO NOTHING;\n" = ") " ++ ("DO NOTHING" ++ ";\n") := rfl
      change w.insertion ++ _ ++ _ ++ _ ++ w.conflictAction ++ _ = _ ↔ _
      rw [ends, ← conflictAction_eq_iff]
      simp only [String.append_assoc, String.append_right_inj, String.append_left_inj]

end Sql.Write

namespace Validation

variable {p : Pipeline} {c : Catalog} {node : Node} {type : NodeType}

theorem upsertsWithoutColumns_iff : upsertsWithoutColumns node type ↔
    node.effective? type "load_strategy" = some (.text "upsert") ∧
      node.hasValue type "columns" = false := by
  unfold upsertsWithoutColumns
  cases node.effective? type "load_strategy" with
  | none => simp
  | some value =>
      cases value with
      | text raw =>
          have upserts : LoadStrategy.parse raw = .ok .upsert ↔ raw = "upsert" :=
            LoadStrategy.parse_eq_ok
          simp only [ConfigValue.text?, Option.bind_some, Option.some.injEq, ConfigValue.text.injEq,
            ← upserts]
          split
          next same => simp [same]
          next other =>
            refine iff_of_false (by simp) fun both => other both.1
      | _ => simp [ConfigValue.text?]

/-- What is said about a target that upserts without columns. -/
def upsertWarning (id : NodeId) : Diagnostic :=
  .about .warning .recommendedConfig id
    ("target " ++ id ++ " upserts without 'columns'; conflicting rows will be ignored")

/-- Without a policy the warning is in the report exactly for the nodes that it is meant for. -/
theorem upsertWarning_mem_iff (h : p.WellFormed) {id : NodeId} (found : p.node? id = some node)
    (registered : c.get? node.type = some type) (target : type.category = .target)
    (limits : Limits) :
    upsertWarning id ∈ (Validator.validate ⟨limits, .empty⟩ p c).diagnostics ↔
      upsertsWithoutColumns node type := by
  have own : node.id = id := h.keyed found
  have meant : upsertWarning id ∈ recommendedConfigOf p c node type ↔
      upsertsWithoutColumns node type := by
    unfold recommendedConfigOf
    rw [target]
    subst own
    simp [upsertWarning]
  rw [← meant]
  constructor
  · intro reported
    obtain ⟨d, listed, same⟩ :=
      Validator.exists_foundBy_of_mem_diagnostics (r := .recommendedConfig) (by decide) reported rfl
    rw [Policy.apply_empty] at same
    subst same
    obtain ⟨⟨other, type'⟩, resolved, listed⟩ := List.mem_flatMap.mp listed
    obtain ⟨visited, registered'⟩ := mem_resolved.mp resolved
    have about : id = other.id := Option.some.inj (node_of_mem_recommendedConfigOf listed)
    obtain rfl := Option.some.inj
      (found.symm.trans (h.mem_nodeList_and_id_iff.mp ⟨visited, about.symm⟩))
    obtain rfl := Option.some.inj (registered.symm.trans registered')
    exact listed
  · intro listed
    have resolved := mem_resolved.mpr ⟨Pipeline.mem_nodeList.mpr ⟨id, found⟩, registered⟩
    have all := Validator.exists_mem_foundBy (v := ⟨limits, .empty⟩).mpr
      ⟨.recommendedConfig, List.mem_flatMap.mpr ⟨(node, type), resolved, listed⟩⟩
    have reported := Validator.apply_mem_diagnostics all
    rw [Policy.apply_empty] at reported
    exact reported

end Validation

namespace NodeType

/-- The load strategy is no free text, and no option for it is the name of upserting with blanks
around it. -/
def NamesStrategies (type : NodeType) : Prop :=
  ∀ field, type.field? "load_strategy" = some field → field.kind ≠ .text ∧
    ∀ option ∈ field.options, Text.trim option = "upsert" → option = "upsert"

theorem namesStrategies_of_mem_standardTypes {type : NodeType}
    (member : type ∈ Catalog.standardTypes) : type.NamesStrategies := by
  have all : ∀ type ∈ Catalog.standardTypes, ∀ field ∈ type.fields, field.name = "load_strategy" →
      field.kind ≠ .text ∧ ∀ option ∈ field.options, Text.trim option = "upsert" →
        option = "upsert" := by
    decide +kernel
  intro field declared
  exact all type member field (List.mem_of_find?_eq_some declared)
    (by simpa using List.find?_some declared)

end NodeType

/-- The strategy is the name of upserting with blanks around it. -/
def Node.PadsUpsert (node : Node) (type : NodeType) : Prop :=
  ∃ raw, node.effective? type "load_strategy" = some (.text raw) ∧ raw ≠ "upsert" ∧
    Text.trim raw = "upsert"

/-- The two readings of the strategy tell the same but where blanks stand around its name. -/
theorem Node.upserts_alike_iff {node : Node} {type : NodeType} :
    ((∃ raw, node.effective? type "load_strategy" = some (.text raw) ∧ Text.trim raw = "upsert") ↔
      node.effective? type "load_strategy" = some (.text "upsert")) ↔ ¬ node.PadsUpsert type := by
  constructor
  · rintro same ⟨raw, given, padded, named⟩
    have bare := same.mp ⟨raw, given, named⟩
    rw [given] at bare
    exact padded (ConfigValue.text.inj (Option.some.inj bare))
  · intro bare
    constructor
    · rintro ⟨raw, given, named⟩
      have word : raw = "upsert" := by
        by_contra padded
        exact bare ⟨raw, given, padded, named⟩
      rw [given, word]
    · exact fun given => ⟨"upsert", given, by decide⟩

/-- Where the type names the strategies, a strategy that is read as upserting is written so. -/
theorem Node.strategy_eq_of_namesStrategies {node : Node} {type : NodeType} {raw : String}
    (names : type.NamesStrategies) (sound : type.Sound) (fits : node.Fits type)
    (given : node.effective? type "load_strategy" = some (.text raw))
    (named : Text.trim raw = "upsert") : raw = "upsert" := by
  have some : Text.isBlank raw = false := Text.isBlank_of_trim named (by decide)
  have admitted : ∃ field, type.field? "load_strategy" = .some field ∧
      field.misfit? (.text raw) = none := by
    unfold effective? at given
    split at given
    next value own =>
      obtain rfl := Option.some.inj given
      obtain ⟨field, declared, fits⟩ := fits _ _ own
      exact ⟨field, declared, fits some⟩
    next =>
      obtain ⟨field, declared, default⟩ := Option.bind_eq_some_iff.mp given
      have listed := (sound.field?_eq_some.mp declared).1
      exact ⟨field, declared, (sound.fields field listed).default _ default⟩
  obtain ⟨field, declared, fits⟩ := admitted
  obtain ⟨noText, options⟩ := names field declared
  obtain text | ⟨_, option⟩ := FieldSpec.misfit?_text_eq_none.mp fits
  · exact absurd text noText
  · exact options raw option named

namespace Sql

variable {p : Pipeline} {c : Catalog} {script : Script} {id : NodeId} {node : Node} {type : NodeType}

/-- A target has one block, and that is the write of its settings. -/
theorem write_of_target (h : p.WellFormed) (planned : plan p c = .ok script)
    (found : p.node? id = some node) (registered : c.get? node.type = some type)
    (target : type.category = .target) :
    (∃ block ∈ script.blocks, block.node = id) ∧
      ∀ block ∈ script.blocks, block.node = id → ∃ t, block.statement = .write ⟨t, inputsOf p id⟩ ∧
        Settings.ofTarget ⟨node, type⟩ = .ok t := by
  constructor
  · exact exists_block h planned (Pipeline.containsNode_iff.mpr ⟨node, found⟩)
  · rintro block member rfl
    obtain ⟨node', type', settings, found', registered', projected, made⟩ :=
      planNode_eq_ok.mp (planNode_of_mem h planned member)
    obtain rfl := Option.some.inj (found.symm.trans found')
    obtain rfl := Option.some.inj (registered.symm.trans registered')
    obtain ⟨category, settled⟩ := Settings.project_eq_ok projected
    rw [target] at category
    cases settings with
    | target t =>
        exact ⟨t, congrArg Block.statement made, settled⟩
    | _ => cases category

/-- The write of a target leaves rows in conflict if the target upserts and has no columns. -/
theorem Write.render_eq_keeping_iff_of_ofTarget {t : TargetSettings} {inputs : List String}
    (made : Settings.ofTarget ⟨node, type⟩ = .ok t) :
    (Write.mk t inputs).render = (Write.mk t inputs).keeping ↔
      (∃ raw, node.effective? type "load_strategy" = some (.text raw) ∧
        Text.trim raw = "upsert") ∧ node.hasValue type "columns" = false := by
  rw [Write.render_eq_keeping_iff, Write.ignoresConflicts, Bool.and_eq_true, beq_iff_eq,
    List.isEmpty_iff, Settings.strategy_eq_upsert made, Settings.columns_eq_nil made]
  rfl

end Sql

/-- The write of a target leaves rows in conflict exactly if its strategy is to upsert, with or
without blanks around the word, and it has no columns. The report without a policy warns about that
exactly if the strategy is the bare word and there are no columns. So the two differ for targets
without columns whose strategy has blanks around it, and nowhere else. Built-in types and all types
that name the strategies by options without blanks have no such targets. -/
theorem Compiler.conflict_warning_exact (c : Compiler) {p : Pipeline} (h : p.Reachable)
    {text : String} (generated : c.generate p .sql = .ok text) {id : NodeId} {node : Node}
    {type : NodeType} (found : p.node? id = some node)
    (registered : c.catalog.get? node.type = some type) (target : type.category = .target)
    (limits : Limits) :
    let warned := Validation.upsertWarning id ∈
      (Validator.validate ⟨limits, .empty⟩ p c.catalog).diagnostics
    ∃ script, Sql.plan p c.catalog = .ok script ∧ text = script.render ∧
      (∃ block ∈ script.sorted, block.node = id) ∧
      ∀ block ∈ script.sorted, block.node = id → ∃ w, block.statement = .write w ∧
        (w.render = w.keeping ↔
          (∃ raw, node.effective? type "load_strategy" = some (.text raw) ∧
            Text.trim raw = "upsert") ∧ node.hasValue type "columns" = false) ∧
        (warned ↔ node.effective? type "load_strategy" = some (.text "upsert") ∧
          node.hasValue type "columns" = false) ∧
        ((w.render = w.keeping ↔ warned) ↔
          ¬ (node.PadsUpsert type ∧ node.hasValue type "columns" = false)) ∧
        (c.catalog.Sound → type ∈ Catalog.standardTypes ∨ type.NamesStrategies →
          (w.render = w.keeping ↔ warned)) := by
  intro warned
  have wf := h.wellFormed
  have warns : warned ↔ node.effective? type "load_strategy" = some (.text "upsert") ∧
      node.hasValue type "columns" = false :=
    (Validation.upsertWarning_mem_iff wf found registered target limits).trans
      Validation.upsertsWithoutColumns_iff
  have fits : node.Fits type := by
    have clean := requiredConfigOf_eq_nil_of_deployable (c.isDeployable_of_generate generated)
      (Pipeline.mem_nodeList.mpr ⟨id, found⟩) registered
    exact Validation.fits_of_fieldFindings (Validation.requiredConfigOf_eq_nil.mp clean).1
  obtain ⟨script, planned, rendered⟩ := c.exists_plan_of_generate generated
  obtain ⟨present, each⟩ := Sql.write_of_target wf planned found registered target
  simp only [Sql.Script.mem_sorted]
  refine ⟨script, planned, rendered, present, fun block member own => ?_⟩
  obtain ⟨t, statement, made⟩ := each block member own
  let w : Sql.Write := ⟨t, Sql.inputsOf p id⟩
  have keeps : w.render = w.keeping ↔ _ := Sql.Write.render_eq_keeping_iff_of_ofTarget made
  have agree : (w.render = w.keeping ↔ warned) ↔
      ¬ (node.PadsUpsert type ∧ node.hasValue type "columns" = false) := by
    rw [keeps, warns, and_congr_left_iff, Node.upserts_alike_iff, not_and']
  refine ⟨w, statement, keeps, warns, agree, fun sound names => agree.mpr ?_⟩
  rintro ⟨⟨raw, given, padded, named⟩, _⟩
  have names : type.NamesStrategies :=
    names.elim NodeType.namesStrategies_of_mem_standardTypes fun names => names
  exact padded (Node.strategy_eq_of_namesStrategies names (sound _ type registered).2 fits given named)

/-- A target type whose load strategy is free text. -/
def looseTarget : NodeType where
  id := "target-loose"
  category := .target
  displayName := "Loose Target"
  description := ""
  fields :=
    [.mandatory "connection" .text, .mandatory "table" .text, .voluntary "load_strategy" .text,
     .voluntary "key_columns" .list]

/-- A target with blanks around its load strategy. -/
def paddedStrategy : Descriptor where
  id := "p"
  name := "P"
  nodes :=
    [⟨"A", "source-pg", "", .ofList [("connection", .text "dwh"), ("table", .text "orders")]⟩,
     ⟨"B", "target-loose", "",
       .ofList [("connection", .text "dwh"), ("table", .text "daily"),
         ("load_strategy", .text " upsert "), ("key_columns", .list ["id"])]⟩]
  edges := [⟨"A", "B"⟩]

/-- Rows in conflict are left as they are, and no warning says so. -/
theorem Compiler.conflict_warning_exact_paddedStrategy :
    let c : Compiler := ⟨Catalog.registerAll .standard [[looseTarget]], .standard⟩
    ∃ p text script block w, Pipeline.ofDescriptor paddedStrategy = .ok p ∧
      c.generate p .sql = .ok text ∧ Sql.plan p c.catalog = .ok script ∧ text = script.render ∧
      block ∈ script.sorted ∧ block.node = "B" ∧ block.statement = .write w ∧
      w.render = w.keeping ∧
      Validation.upsertWarning "B" ∉ (Validator.standard.validate p c.catalog).diagnostics := by
  intro c
  obtain ⟨p, built⟩ : ∃ p, Pipeline.ofDescriptor paddedStrategy = .ok p := ⟨_, rfl⟩
  have h : p.Reachable := .loaded built
  obtain ⟨text, generated⟩ : ∃ text, c.generate p .sql = .ok text := by
    refine c.exists_generate_of_clean h.wellFormed ?_ .sql
    cases built
    decide +kernel
  obtain ⟨node, found, strategy, columns⟩ : ∃ node, p.node? "B" = some node ∧
      node.effective? looseTarget "load_strategy" = some (.text " upsert ") ∧
      node.hasValue looseTarget "columns" = false := by
    cases built
    exact ⟨_, rfl, by decide +kernel, by decide +kernel⟩
  have registered : c.catalog.get? node.type = some looseTarget := by
    cases built
    cases found
    decide +kernel
  obtain ⟨script, planned, rendered, ⟨block, member, own⟩, each⟩ :=
    c.conflict_warning_exact h generated found registered rfl .standard
  obtain ⟨w, statement, keeps, warns, _⟩ := each block member own
  refine ⟨p, text, script, block, w, built, generated, planned, rendered, member, own, statement,
    keeps.mpr ⟨⟨_, strategy, by decide⟩, columns⟩, fun warned => ?_⟩
  have bare := (warns.mp warned).1
  rw [strategy] at bare
  exact absurd (ConfigValue.text.inj (Option.some.inj bare)) (by decide)

end Etl
