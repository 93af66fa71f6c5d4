import Etl.Proofs.Pipeline.Descriptor
import Etl.Validation.Policy
import Etl.Validation.Report

/-!
What else is exchanged as JSON: reports, policies, limits and node types are read back from the
texts written for them. What a text leaves out because it is absent or empty is what the record
holds before any field is read, and a policy passes the check that its own invariant answers.
-/

namespace Etl

open Json Results

theorem Severity.lookup_name (s : Severity) : Severity.known.lookup s.name = some s := by
  cases s <;> rfl

theorem Rule.lookup_name (r : Rule) : Rule.known.lookup r.name = some r := by
  cases r <;> rfl

theorem Category.lookup_name (c : Category) : Category.known.lookup c.name = some c := by
  cases c <;> rfl

theorem FieldKind.lookup_name (k : FieldKind) : FieldKind.known.lookup k.name = some k := by
  cases k <;> rfl

namespace Diagnostic

theorem readable_toJson (d : Diagnostic) : Readable d.toJson := by
  apply Readable.object
  intro member found
  rcases List.mem_append.mp found with found | found
  · simp only [List.mem_cons, List.not_mem_nil, or_false] at found
    rcases found with rfl | rfl | rfl
    all_goals exact .text _
  · split at found
    · obtain rfl := List.mem_singleton.mp found
      exact .text _
    · cases found

theorem read_toJson (d : Diagnostic) : Diagnostic.shape.read d.toJson.raw = .ok d := by
  obtain ⟨severity, rule, message, node⟩ := d
  have always : Diagnostic.shape.readMembers
      (rawMembers [("severity", .text severity.name), ("rule", .text rule.name),
        ("message", .text message)]) [] Diagnostic.shape.blank =
      .ok (["message", "rule", "severity"], ⟨severity, rule, message, none⟩) :=
    (Shape.readMembers_cons rfl rfl (put_of_read (Reader.oneOf_raw severity.lookup_name))).trans <|
      (Shape.readMembers_cons rfl rfl (put_of_read (Reader.oneOf_raw rule.lookup_name))).trans <|
        (Shape.readMembers_cons rfl rfl rfl).trans rfl
  cases node with
  | none => exact Shape.read_object ((Shape.readMembers_append always).trans rfl) rfl
  | some id =>
      have node : Diagnostic.shape.readMembers (rawMembers [("node", .text id)])
          ["message", "rule", "severity"] ⟨severity, rule, message, none⟩ =
          .ok (["node", "message", "rule", "severity"], ⟨severity, rule, message, some id⟩) :=
        (Shape.readMembers_cons rfl rfl rfl).trans rfl
      exact Shape.read_object ((Shape.readMembers_append always).trans node) rfl

end Diagnostic

namespace Report

theorem readable_toJson (r : Report) : Readable r.toJson := by
  apply Readable.object
  intro member found
  obtain rfl := List.mem_singleton.mp found
  exact .list_map fun d _ => d.readable_toJson

theorem read_toJson (r : Report) : Report.shape.read r.toJson.raw = .ok r := by
  have diagnostics : Reader.list Diagnostic.shape.read
      (raw (.list (r.diagnostics.map Diagnostic.toJson))) = .ok r.diagnostics :=
    Reader.list_raw fun d _ => d.read_toJson
  exact Shape.read_object
    ((Shape.readMembers_cons rfl rfl (put_of_read diagnostics)).trans rfl) rfl

end Report

namespace Limits

theorem readable_toJson (l : Limits) : Readable l.toJson := by
  apply Readable.object
  intro member found
  simp only [List.mem_cons, List.not_mem_nil, or_false] at found
  rcases found with rfl | rfl | rfl
  all_goals exact .number (Number.readsBack_integer _ _)

theorem read_toJson (l : Limits) : Limits.shape.read l.toJson.raw = .ok l := by
  have size (n : UInt64) : Reader.size (Json.ofSize n).raw = .ok n := by
    have natural : ¬ (n.toNat : Int) < 0 := by omega
    simp only [Json.ofSize, raw, Reader.size, strictly, Except.mapError, bind, Except.bind,
      if_neg natural]
    rfl
  exact Shape.read_object
    ((Shape.readMembers_cons rfl rfl (put_of_read (size _))).trans <|
      (Shape.readMembers_cons rfl rfl (put_of_read (size _))).trans <|
        (Shape.readMembers_cons rfl rfl (put_of_read (size _))).trans rfl) rfl

end Limits

namespace Policy

theorem readable_toJson (p : Policy) : Readable p.toJson := by
  apply Readable.object
  intro member found
  obtain ⟨e, _, rfl⟩ := List.mem_map.mp found
  exact .text _

/-- Overrides that weaken no blocking rule are all taken in. -/
theorem exists_overrideAll (p : Policy) {l : List (Rule × Severity)}
    (allowed : ∀ e ∈ l, e.1.isBlocking → e.2 = .error) :
    ∃ q, p.overrideAll l = .ok q ∧ q.overrides = p.overrides.insertMany l := by
  induction l generalizing p with
  | nil => exact ⟨p, rfl, rfl⟩
  | cons e rest ih =>
      obtain ⟨next, taken, stored⟩ :
          ∃ next, p.override e.1 e.2 = .ok next ∧ next.overrides = p.overrides.insert e.1 e.2 := by
        rw [Policy.override, dif_pos (allowed e List.mem_cons_self)]
        exact ⟨_, rfl, rfl⟩
      obtain ⟨q, others, all⟩ := ih next fun e member => allowed e (List.mem_cons_of_mem _ member)
      refine ⟨q, bind_eq_ok.mpr ⟨next, taken, others⟩, ?_⟩
      rw [all, stored]
      rfl

/-- A policy can be put together from its own overrides. -/
theorem overrideAll_entries (p : Policy) : empty.overrideAll p.overrides.entries = .ok p := by
  obtain ⟨q, made, stored⟩ := empty.exists_overrideAll p.blocking
  have whole : q.overrides = p.overrides := stored.trans (SortedMap.ofList_entries p.overrides)
  have same : q = p := by
    cases p
    cases q
    cases whole
    rfl
  rw [made, same]

theorem read_toJson (p : Policy) : Policy.read p.toJson.raw = .ok p := by
  have entries : Reader.object (.oneOf Rule.known) (.oneOf Severity.known) p.toJson.raw =
      .ok p.overrides.entries :=
    Reader.object_raw Rule.name (fun s : Severity => .text s.name)
      (fun e _ => Reader.oneOf_raw e.1.lookup_name) fun e _ => Reader.oneOf_raw e.2.lookup_name
  refine bind_eq_ok.mpr ⟨p.overrides.entries, entries, ?_⟩
  rw [SortedMap.ofList_entries, overrideAll_entries]
  rfl

end Policy

namespace FieldSpec

/-- A double that is the default of the field is read back. -/
def DoubleReadsBack (field : FieldSpec) : Prop := ∀ value ∈ field.default, value.ReadsBack

instance (field : FieldSpec) : Decidable field.DoubleReadsBack :=
  inferInstanceAs (Decidable (∀ value ∈ field.default, value.ReadsBack))

theorem readable_toJson {field : FieldSpec} (h : field.DoubleReadsBack) :
    Readable field.toJson := by
  apply Readable.object
  intro member found
  rcases List.mem_append.mp found with found | found
  · rcases List.mem_append.mp found with found | found
    · simp only [List.mem_cons, List.not_mem_nil, or_false] at found
      rcases found with rfl | rfl | rfl
      · exact .text _
      · exact .text _
      · exact .bool _
    · split at found
      next value given =>
        obtain rfl := List.mem_singleton.mp found
        exact ConfigValue.readable_toJson (h value given)
      next => cases found
  · split at found
    · cases found
    · obtain rfl := List.mem_singleton.mp found
      exact .list_map fun s _ => .text s

/-- The default of a field is read in a place that stands one container deeper than the field. -/
theorem read_toJson (room : Nat) (field : FieldSpec) :
    (FieldSpec.shape (room + 2)).read field.toJson.raw = .ok field := by
  obtain ⟨name, kind, required, default, options⟩ := field
  have always : (FieldSpec.shape (room + 2)).readMembers
      (rawMembers [("name", .text name), ("type", .text kind.name), ("required", .bool required)])
        [] (FieldSpec.shape (room + 2)).blank =
      .ok (["required", "type", "name"], ⟨name, kind, required, none, []⟩) :=
    (Shape.readMembers_cons rfl rfl rfl).trans <|
      (Shape.readMembers_cons rfl rfl (put_of_read (Reader.oneOf_raw kind.lookup_name))).trans <|
        (Shape.readMembers_cons rfl rfl rfl).trans rfl
  have given (value : ConfigValue) : (FieldSpec.shape (room + 2)).readMembers
      (rawMembers [("default", value.toJson)]) ["required", "type", "name"]
        ⟨name, kind, required, none, []⟩ =
      .ok (["default", "required", "type", "name"], ⟨name, kind, required, some value, []⟩) :=
    (Shape.readMembers_cons rfl rfl (put_of_read
      (Reader.optional_raw value.toJson_ne_null (value.read_toJson room)))).trans rfl
  have listed {seen : List String} (fresh : seen.contains "options" = false)
      (default : Option ConfigValue) : (FieldSpec.shape (room + 2)).readMembers
      (rawMembers [("options", .texts options)]) seen ⟨name, kind, required, default, []⟩ =
      .ok ("options" :: seen, ⟨name, kind, required, default, options⟩) := by
    have texts : Reader.list .text (Json.texts options).raw = .ok options :=
      Reader.list_raw fun _ _ => rfl
    exact (Shape.readMembers_cons rfl fresh (put_of_read texts)).trans rfl
  -- What the text leaves out, the record holds before any member is read.
  cases default with
  | none =>
      cases options with
      | nil => exact Shape.read_object ((Shape.readMembers_append always).trans rfl) rfl
      | cons => exact Shape.read_object ((Shape.readMembers_append always).trans (listed rfl _)) rfl
  | some value =>
      have front := (Shape.readMembers_append always).trans (given value)
      cases options with
      | nil => exact Shape.read_object ((Shape.readMembers_append front).trans rfl) rfl
      | cons => exact Shape.read_object ((Shape.readMembers_append front).trans (listed rfl _)) rfl

end FieldSpec

namespace NodeType

/-- All doubles among the defaults of a type are read back. -/
def DoublesReadBack (type : NodeType) : Prop := ∀ field ∈ type.fields, field.DoubleReadsBack

instance (type : NodeType) : Decidable type.DoublesReadBack :=
  inferInstanceAs (Decidable (∀ field ∈ type.fields, field.DoubleReadsBack))

theorem readable_toJson {type : NodeType} (h : type.DoublesReadBack) : Readable type.toJson := by
  apply Readable.object
  intro member found
  simp only [List.mem_cons, List.not_mem_nil, or_false] at found
  rcases found with rfl | rfl | rfl | rfl | rfl
  · exact .text _
  · exact .text _
  · exact .text _
  · exact .text _
  · exact .list_map fun field member => FieldSpec.readable_toJson (h field member)

theorem read_toJson (room : Nat) (type : NodeType) :
    (NodeType.shape (room + 4)).read type.toJson.raw = .ok type := by
  have fields : Reader.list (FieldSpec.shape (room + 2)).read
      (raw (.list (type.fields.map FieldSpec.toJson))) = .ok type.fields :=
    Reader.list_raw fun field _ => field.read_toJson room
  exact Shape.read_object
    ((Shape.readMembers_cons rfl rfl rfl).trans <|
      (Shape.readMembers_cons rfl rfl
        (put_of_read (Reader.oneOf_raw type.category.lookup_name))).trans <|
        (Shape.readMembers_cons rfl rfl rfl).trans <|
          (Shape.readMembers_cons rfl rfl rfl).trans <|
            (Shape.readMembers_cons rfl rfl (put_of_read fields)).trans rfl) rfl

end NodeType

/-- Every report, policy and collection of limits is read back from its text, compact or indented,
and so is a type of nodes whose default doubles are read back as the same doubles. -/
theorem written_values_survive :
    (∀ r : Report, Survives Report.shape.read Report.toJson r) ∧
      (∀ p : Policy, Survives Policy.read Policy.toJson p) ∧
      (∀ l : Limits, Survives Limits.shape.read Limits.toJson l) ∧
      ∀ type : NodeType, type.DoublesReadBack →
        Survives (NodeType.shape maxDepth).read NodeType.toJson type := by
  refine ⟨fun r => ?_, fun p => ?_, fun l => ?_, fun type doubles => ?_⟩
  · exact .of_raw r.readable_toJson r.read_toJson
  · exact .of_raw p.readable_toJson p.read_toJson
  · exact .of_raw l.readable_toJson l.read_toJson
  · exact .of_raw (NodeType.readable_toJson doubles) (type.read_toJson 123)

/-- A type with a default for a field of each kind, a field with none, and names to be escaped. -/
def mixedType : NodeType where
  id := "transform-mixed"
  category := .transform
  displayName := "Mixed \"kinds\""
  description := ""
  fields :=
    [⟨"share", .number, false,
        some (.number (.double ⟨false, 1021 * Double.binade, by decide⟩)), []⟩,
      ⟨"mode", .choice, true, some (.text "back\\slash"), ["plain", "back\\slash"]⟩,
      ⟨"keys", .list, false, some (.list []), []⟩, ⟨"on", .flag, false, some (.flag false), []⟩,
      .mandatory "größe" .text]

theorem written_values_survive_mixedType :
    mixedType.DoublesReadBack ∧
      Reader.ofText (NodeType.shape maxDepth).read mixedType.toJson.compact = .ok mixedType := by
  have doubles : mixedType.DoublesReadBack := by decide +kernel
  exact ⟨doubles, (written_values_survive.2.2.2 mixedType doubles).compact⟩

end Etl
