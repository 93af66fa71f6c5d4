import Etl.Pipeline.Descriptor
import Etl.Proofs.Json.Record
import Etl.Proofs.SortedMap

/-!
Descriptors are read back from their JSON form: configuration values by their kind, nodes and edges
by their fields. Only doubles need an assumption, since not every double that is written is read as
the same double again.
-/

namespace Etl

open Json

namespace ConfigValue

/-- A double that is written is read as the same double again; other values need no promise. -/
def ReadsBack : ConfigValue → Prop
  | number (.double d) => (Number.double d).ReadsBack
  | _ => True

instance : (value : ConfigValue) → Decidable value.ReadsBack
  | number (.double d) => inferInstanceAs (Decidable (Number.double d).ReadsBack)
  | number (.integer ..) | flag _ | text _ | list _ => inferInstanceAs (Decidable True)

theorem readable_toJson {value : ConfigValue} (h : value.ReadsBack) : Readable value.toJson := by
  cases value with
  | flag b => exact .bool b
  | number n =>
      cases n with
      | integer i fits => exact .number (Number.readsBack_integer i fits)
      | double d => exact .number h
  | text s => exact .text s
  | list items => exact .list_map fun s _ => .text s

theorem toJson_ne_null (value : ConfigValue) : value.toJson ≠ .null := by
  cases value <;> exact Json.noConfusion

theorem checkItems_texts (room : Nat) (items : List String) :
    Raw.checkItems room (rawItems (items.map .text)) = .ok () := by
  induction items with
  | nil => rfl
  | cons s items ih =>
      rw [List.map_cons, rawItems, Raw.checkItems, ih]
      rfl

theorem readTexts_texts (items : List String) :
    readTexts (rawItems (items.map .text)) = some items := by
  induction items with
  | nil => rfl
  | cons s items ih =>
      rw [List.map_cons, rawItems, raw, readTexts, ih]
      rfl

/-- A value needs room for the list that it may be. -/
theorem read_toJson (room : Nat) (value : ConfigValue) :
    ConfigValue.read (room + 1) value.toJson.raw = .ok value := by
  cases value with
  | flag b => rfl
  | number n => rfl
  | text s => rfl
  | list items =>
      have checked :
          Raw.check (room + 1) (.list (rawItems (items.map .text)) .closed) = .ok () := by
        rw [Raw.check, checkItems_texts]
        rfl
      rw [toJson, Json.texts, raw]
      simp only [ConfigValue.read, checked, readTexts_texts]
      rfl

end ConfigValue

namespace Config

variable {config : Config}

theorem readable_toJson (h : ∀ e ∈ config.entries, e.2.ReadsBack) : Readable config.toJson := by
  apply Readable.object
  intro member found
  obtain ⟨e, entry, rfl⟩ := List.mem_map.mp found
  exact ConfigValue.readable_toJson (h e entry)

theorem read_toJson (room : Nat) (config : Config) :
    Config.read (room + 1) config.toJson.raw = .ok config := by
  have entries : Reader.object Reader.text (ConfigValue.read (room + 1)) config.toJson.raw =
      .ok config.entries :=
    Reader.object_raw (fun name => name) ConfigValue.toJson (fun _ _ => rfl) fun m _ =>
      ConfigValue.read_toJson room m.2
  rw [Config.read, entries]
  exact congrArg Except.ok (SortedMap.ofList_entries config)

end Config

namespace Edge

theorem readable_toJson (e : Edge) : Readable e.toJson := by
  apply Readable.object
  intro member found
  simp only [List.mem_cons, List.not_mem_nil, or_false] at found
  rcases found with rfl | rfl
  all_goals exact .text _

theorem read_toJson (e : Edge) : Edge.shape.read e.toJson.raw = .ok e :=
  Shape.read_object
    ((Shape.readMembers_cons rfl rfl rfl).trans <|
      (Shape.readMembers_cons rfl rfl rfl).trans rfl) rfl

end Edge

namespace Node

variable {node : Node}

theorem readable_toJson (h : ∀ e ∈ node.config.entries, e.2.ReadsBack) : Readable node.toJson := by
  apply Readable.object
  intro member found
  simp only [List.mem_cons, List.not_mem_nil, or_false] at found
  rcases found with rfl | rfl | rfl | rfl
  · exact .text _
  · exact .text _
  · exact .text _
  · exact Config.readable_toJson h

theorem read_toJson (room : Nat) (node : Node) :
    (Node.shape (room + 3)).read node.toJson.raw = .ok node := by
  have config := Config.read_toJson room node.config
  exact Shape.read_object
    ((Shape.readMembers_cons rfl rfl rfl).trans <| (Shape.readMembers_cons rfl rfl rfl).trans <|
      (Shape.readMembers_cons rfl rfl rfl).trans <|
        (Shape.readMembers_cons rfl rfl (put_of_read config)).trans rfl) rfl

end Node

namespace Descriptor

variable {d : Descriptor}

/-- All doubles in the configurations of a descriptor are read back. -/
def ReadsBack (d : Descriptor) : Prop :=
  ∀ node ∈ d.nodes, ∀ e ∈ node.config.entries, e.2.ReadsBack

theorem readable_toJson (h : d.ReadsBack) : Readable d.toJson := by
  apply Readable.object
  intro member found
  simp only [List.mem_cons, List.not_mem_nil, or_false] at found
  rcases found with rfl | rfl | rfl | rfl
  · exact .text _
  · exact .text _
  · exact .list_map fun node visited => Node.readable_toJson (h node visited)
  · exact .list_map fun e _ => e.readable_toJson

theorem read_toJson (d : Descriptor) : Descriptor.shape.read d.toJson.raw = .ok d := by
  have nodes : Reader.list (Node.shape (maxDepth - 2)).read
      (raw (.list (d.nodes.map Node.toJson))) = .ok d.nodes :=
    Reader.list_raw fun node _ => Node.read_toJson 122 node
  have edges : Reader.list Edge.shape.read (raw (.list (d.edges.map Edge.toJson))) = .ok d.edges :=
    Reader.list_raw fun e _ => Edge.read_toJson e
  exact Shape.read_object
    ((Shape.readMembers_cons rfl rfl rfl).trans <| (Shape.readMembers_cons rfl rfl rfl).trans <|
      (Shape.readMembers_cons rfl rfl (put_of_read nodes)).trans <|
        (Shape.readMembers_cons rfl rfl (put_of_read edges)).trans rfl) rfl

/-- A descriptor is read back from its indented text. -/
theorem ofText_indented (h : d.ReadsBack) :
    Reader.ofText Descriptor.shape.read (d.toJson.indented ++ "\n") = .ok d :=
  Reader.ofText_indented (readable_toJson h) (read_toJson d)

end Descriptor

end Etl
