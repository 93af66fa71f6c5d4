import Etl.Pipeline.Descriptor
import Etl.Proofs.Sql.Item
import Etl.Proofs.Text.Pass

/-!
The places of a query written by hand. They are filled one number after the other, over text that
was filled before. That does the same as going over the query once: no two places overlap, and the
name of a relation completes none.
-/

namespace Etl.Sql

open Text

/-- The numbered places with their inputs, counted from one. -/
def numberedPlaces (inputs : List String) : List (String × String) :=
  ((List.range inputs.length).zip inputs).map fun e => (place ("_" ++ toString (e.1 + 1)), e.2)

/-- What each place of a query stands for: an input by its number, or all of them together. -/
def places (inputs : List String) : List (String × String) :=
  numberedPlaces inputs ++ [(place "", combined inputs)]

/-- The characters that the places with a meaning are made of. -/
def isPlaceChar (c : Char) : Bool := "\x7b\x7dinput_".toList.contains c || c.isDigit

theorem toList_place (label : String) :
    (place label).toList = embrace ("input".toList ++ label.toList) := by
  have opened : "\x7b\x7binput".toList = '\x7b' :: '\x7b' :: "input".toList := by decide
  have closed : "\x7d\x7d".toList = ['\x7d', '\x7d'] := by decide
  simp only [place, String.toList_append, opened, closed, embrace, List.cons_append,
    List.append_assoc]

theorem place_inj {a b : String} : place a = place b ↔ a = b := by
  rw [place, place, String.append_left_inj, String.append_right_inj]

theorem braceless_label {label : String} (braceless : Braceless label.toList) :
    Braceless ("input".toList ++ label.toList) :=
  braceless_append.mpr ⟨by decide, braceless⟩

/-- Digits behind a mark, as in the labels of numbered places. -/
theorem mem_number {n : Nat} {c : Char} (member : c ∈ ("_" ++ toString n).toList) :
    c = '_' ∨ c.isDigit := by
  have mark : "_".toList = ['_'] := by decide
  rw [String.toList_append, List.mem_append, mark, List.mem_singleton, Nat.toString_eq_repr,
    Nat.toList_repr] at member
  exact member.imp_right (Nat.isDigit_of_mem_toDigits (by decide) (by decide))

theorem braceless_number (n : Nat) : Braceless ("_" ++ toString n).toList := by
  constructor <;> intro member <;> simpa using mem_number member

theorem braceless_of_word {cs : List Char} (word : ∀ c ∈ cs, isWordChar c) : Braceless cs :=
  ⟨fun member => absurd (word _ member) (by decide),
    fun member => absurd (word _ member) (by decide)⟩

theorem exists_foreign_of_name {name : String} (h : IsRelationName name) :
    ∃ c ∈ name.toList, isPlaceChar c = false :=
  ⟨'w', h.marked.subset (by decide), by decide⟩

section Names

variable {inputs : List String} (named : ∀ name ∈ inputs, IsRelationName name)

include named

theorem braceless_combined : Braceless (combined inputs).toList :=
  ⟨fun member => absurd (isItemChar_of_mem_combined named _ member) (by decide),
    fun member => absurd (isItemChar_of_mem_combined named _ member) (by decide)⟩

theorem exists_foreign_combined : ∃ c ∈ (combined inputs).toList, isPlaceChar c = false := by
  unfold combined
  split
  next single =>
    obtain ⟨name, rfl⟩ := List.length_eq_one_iff.mp single
    exact exists_foreign_of_name (named name List.mem_cons_self)
  next =>
    refine ⟨' ', ?_, by decide⟩
    rw [aliased, String.toList_append, String.toList_append]
    exact List.mem_append_left _ (List.mem_append_right _ (by decide))

theorem independent_places : ∀ e ∈ places inputs, Independent isPlaceChar e := by
  have made {label : String} (plain : ∀ c ∈ label.toList, isPlaceChar c) :
      ∀ c ∈ (place label).toList, isPlaceChar c := by
    have word : ∀ c ∈ "input".toList, isPlaceChar c := List.all_eq_true.mp (by decide)
    intro c member
    rw [toList_place, mem_embrace, List.mem_append] at member
    rcases member with rfl | (member | member) | rfl
    · decide
    · exact word c member
    · exact plain c member
    · decide
  intro e member
  rcases List.mem_append.mp member with numbered | last
  · obtain ⟨⟨i, name⟩, inside, rfl⟩ := List.mem_map.mp numbered
    have known := named name (List.of_mem_zip inside).2
    constructor
    case embraced => exact ⟨_, toList_place _, braceless_label (braceless_number _)⟩
    case made =>
      refine made fun c member => ?_
      rcases mem_number member with rfl | digit
      · decide
      · simp [isPlaceChar, digit]
    case braceless => exact braceless_of_word known.word
    case foreign => exact exists_foreign_of_name known
  · rw [List.mem_singleton.mp last]
    constructor
    case embraced => exact ⟨_, toList_place _, braceless_label (by decide)⟩
    case made => exact made nofun
    case braceless => exact braceless_combined named
    case foreign => exact exists_foreign_combined named

end Names

theorem places_nodup (inputs : List String) : ((places inputs).map (·.1)).Nodup := by
  have labels : (places inputs).map (·.1) =
      ((List.range inputs.length).map fun i => place ("_" ++ toString (i + 1))) ++ [place ""] := by
    have first : ((List.range inputs.length).zip inputs).map Prod.fst = List.range inputs.length :=
      List.map_fst_zip (by simp)
    rw [places, numberedPlaces, List.map_append, List.map_map]
    conv_rhs => rw [← first, List.map_map]
    rfl
  rw [labels, List.nodup_append]
  refine ⟨List.nodup_range.map fun i j same => ?_, List.nodup_singleton _, ?_⟩
  · rw [place_inj, String.append_right_inj] at same
    exact Nat.succ_injective (toString_injective same)
  · simp only [List.mem_map, List.mem_singleton]
    rintro _ ⟨i, -, rfl⟩ _ rfl same
    exact absurd (place_inj.mp same) (by simp)

theorem fillNumbered_eq (entries : List (Nat × String)) (query : String) :
    fillNumbered entries query =
      (entries.map fun e => (place ("_" ++ toString (e.1 + 1)), e.2)).reverse.foldl
        (fun text e => replaceAll e.1 e.2 text) query := by
  induction entries with
  | nil => rfl
  | cons e entries ih => rw [fillNumbered, ih, List.map_cons, List.reverse_cons, List.foldl_concat]

/-- The places are filled one after the other, the numbered ones from the last. -/
theorem fillPlaces_eq_foldl (query : String) (inputs : List String) :
    fillPlaces query inputs =
      ((numberedPlaces inputs).reverse ++ [(place "", combined inputs)]).foldl
        (fun text e => replaceAll e.1 e.2 text) (bare query) := by
  rw [fillPlaces, fillNumbered_eq, List.foldl_concat, numberedPlaces]

section Filled

variable {inputs : List String} (named : ∀ name ∈ inputs, IsRelationName name)

include named

/-- Filling in any order is one pass. -/
theorem foldl_eq_pass {order : List (String × String)} (same : order.Perm (places inputs))
    (text : String) :
    order.foldl (fun text e => replaceAll e.1 e.2 text) text = pass (places inputs) text := by
  have independent := independent_places named
  rw [foldl_replaceAll fun e member => independent e (same.mem_iff.mp member),
    pass_perm independent same (places_nodup inputs)]

theorem fillPlaces_eq_pass (query : String) :
    fillPlaces query inputs = pass (places inputs) (bare query) := by
  rw [fillPlaces_eq_foldl]
  exact foldl_eq_pass named ((List.reverse_perm _).append_right _) _

end Filled

/-- Places are filled all at once. The result is that of one pass over the query, in which each
place that stands for something is replaced and everything else is copied, other places included;
the order of the replacements does not matter, and there is nothing left to fill. -/
theorem fillPlaces_at_once {p : Pipeline} {inputs : List String}
    (assigned : ∀ name ∈ inputs, ∃ id, (relationNames p).lookup id = some name) (query : String) :
    fillPlaces query inputs = pass (places inputs) (bare query) ∧
      (∀ order : List (String × String), order.Perm (places inputs) →
        order.foldl (fun text e => replaceAll e.1 e.2 text) (bare query) =
          fillPlaces query inputs) ∧
      (∀ before label after, bare query = before ++ place label ++ after →
        Braceless label.toList →
          fillPlaces query inputs =
            pass (places inputs) before ++
              ((places inputs).lookup (place label)).getD (place label) ++
                pass (places inputs) after) ∧
      pass (places inputs) (fillPlaces query inputs) = fillPlaces query inputs := by
  have named : ∀ name ∈ inputs, IsRelationName name := by
    intro name member
    obtain ⟨id, looked⟩ := assigned name member
    exact isRelationName_of_lookup looked
  have whole := fillPlaces_eq_pass named query
  refine ⟨whole, fun order same => ?_, fun before label after split braceless => ?_, ?_⟩
  · rw [foldl_eq_pass named same, whole]
  · rw [whole, split]
    exact pass_around (independent_places named) (toList_place label) (braceless_label braceless)
      before after
  · rw [whole, pass_idempotent (independent_places named)]

/-- A place inside another one, where a number should be. -/
def nestedPlaces : String := "\x7b\x7binput_\x7b\x7binput_2\x7d\x7d\x7d\x7d \x7b\x7binput\x7d\x7d;"

theorem fillPlaces_at_once_nestedPlaces :
    let inputs := ["pw_a", "pw_b"]
    let filled :=
      "\x7b\x7binput_pw_b\x7d\x7d (SELECT * FROM pw_a UNION ALL SELECT * FROM pw_b) AS input"
    ∃ p, Pipeline.ofDescriptor ⟨"p", "", [⟨"a", "source-pg", "", SortedMap.empty⟩,
        ⟨"b", "source-pg", "", SortedMap.empty⟩], []⟩ = .ok p ∧
      (∀ name ∈ inputs, ∃ id, (relationNames p).lookup id = some name) ∧
      fillPlaces nestedPlaces inputs = filled ∧
      (places inputs).reverse.foldl (fun text e => replaceAll e.1 e.2 text) (bare nestedPlaces) =
        filled ∧
      pass (places inputs) filled = filled := by
  intro inputs filled
  obtain ⟨p, built⟩ : ∃ p, Pipeline.ofDescriptor ⟨"p", "", [⟨"a", "source-pg", "", SortedMap.empty⟩,
    ⟨"b", "source-pg", "", SortedMap.empty⟩], []⟩ = .ok p := ⟨_, rfl⟩
  have assigned : ∀ name ∈ inputs, ∃ id, (relationNames p).lookup id = some name := by
    have names : (relationNames p).lookup "a" = some "pw_a" ∧
        (relationNames p).lookup "b" = some "pw_b" := by
      cases built
      decide +kernel
    intro name member
    rcases List.mem_pair.mp member with rfl | rfl
    · exact ⟨"a", names.1⟩
    · exact ⟨"b", names.2⟩
  have value : fillPlaces nestedPlaces inputs = filled := by decide +kernel
  obtain ⟨-, ordered, -, settled⟩ := fillPlaces_at_once assigned nestedPlaces
  rw [value] at ordered settled
  exact ⟨p, built, assigned, value, ordered _ (List.reverse_perm _), settled⟩

end Etl.Sql
