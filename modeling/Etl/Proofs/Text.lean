import Mathlib.Data.List.DropRight
import Etl.Text.Blank

/-!
Trimmed texts. Trimming a text that is not blank leaves a text with nothing blank at its ends, and
trimming that again changes nothing.
-/

namespace Etl.Text

theorem dropEndWhile_eq {α : Type} (p : α → Bool) (l : List α) :
    dropEndWhile p l = l.rdropWhile p := rfl

/-- What is left at the end is the part in front of a run that cannot be longer. -/
theorem dropEndWhile_eq_iff {α : Type} {p : α → Bool} {l front : List α} :
    dropEndWhile p l = front ↔
      (∃ run, l = front ++ run ∧ ∀ a ∈ run, p a) ∧ ∀ a ∈ front.getLast?, p a = false := by
  rw [dropEndWhile_eq]
  constructor
  · rintro rfl
    refine ⟨⟨l.rtakeWhile p, List.rdropWhile_append_rtakeWhile.symm, fun a member => ?_⟩, ?_⟩
    · exact List.mem_rtakeWhile_imp member
    · intro a last
      obtain ⟨some, rfl⟩ := List.mem_getLast?_eq_getLast last
      simpa using List.rdropWhile_last_not p l some
  · rintro ⟨⟨run, rfl, all⟩, last⟩
    rw [List.rdropWhile, List.reverse_append,
      List.dropWhile_append_of_pos (by simpa using all), ← List.rdropWhile,
      List.rdropWhile_eq_self_iff]
    intro some
    simpa using last _ (List.getLast?_eq_some_getLast some)

theorem trimChars_eq_nil {cs : List Char} : trimChars cs = [] ↔ ∀ c ∈ cs, isBlankChar c := by
  rw [trimChars, dropEndWhile_eq, List.rdropWhile_eq_nil_iff, ← List.dropWhile_eq_nil_iff,
    List.dropWhile_idempotent, List.dropWhile_eq_nil_iff]

theorem dropWhile_trimChars (cs : List Char) :
    (trimChars cs).dropWhile isBlankChar = trimChars cs := by
  rw [List.dropWhile_eq_self_iff]
  intro some
  -- The first character is the one that the cut at the front stopped at.
  have part : trimChars cs <+: cs.dropWhile isBlankChar := List.rdropWhile_prefix _ _
  rw [part.getElem some]
  exact List.dropWhile_get_zero_not _ _ _

theorem trimChars_trimChars (cs : List Char) : trimChars (trimChars cs) = trimChars cs := by
  rw [trimChars, dropWhile_trimChars, dropEndWhile_eq, trimChars, dropEndWhile_eq,
    List.rdropWhile_idempotent]

theorem trim_eq_empty {s : String} : trim s = "" ↔ isBlank s := by
  rw [trim, ← String.toList_inj, String.toList_ofList, String.toList_empty, trimChars_eq_nil,
    isBlank, List.all_eq_true]

theorem isBlank_of_trim {s t : String} (trimmed : trim s = t) (given : t ≠ "") :
    isBlank s = false := by
  rw [← Bool.not_eq_true, ← trim_eq_empty, trimmed]
  exact given

theorem trim_trim (s : String) : trim (trim s) = trim s := by
  rw [trim, trim, String.toList_ofList, trimChars_trimChars]

/-- A text that is given and has no blanks around it. -/
structure Neat (s : String) : Prop where
  given : s ≠ ""
  trimmed : trim s = s

theorem neat_trim {s : String} (given : isBlank s = false) : Neat (trim s) where
  given empty := by simp [trim_eq_empty.mp empty] at given
  trimmed := trim_trim s

theorem Neat.trimChars_eq {s : String} (neat : Neat s) : trimChars s.toList = s.toList := by
  rw [← String.toList_ofList (l := trimChars s.toList), ← trim, neat.trimmed]

theorem Neat.head {s : String} (neat : Neat s) : ∀ c ∈ s.toList.head?, isBlankChar c = false := by
  have kept := dropWhile_trimChars s.toList
  rw [neat.trimChars_eq] at kept
  intro c first
  obtain ⟨cs, chars⟩ := List.head?_eq_some_iff.mp first
  rw [chars, List.dropWhile_eq_self_iff] at kept
  exact Bool.eq_false_iff.mpr (kept (Nat.zero_lt_succ _))

theorem Neat.last {s : String} (neat : Neat s) :
    ∀ c ∈ s.toList.getLast?, isBlankChar c = false := by
  have kept := neat.trimChars_eq
  rw [trimChars] at kept
  exact (dropEndWhile_eq_iff.mp kept).2

theorem Neat.isBlank {s : String} (neat : Neat s) : isBlank s = false :=
  isBlank_of_trim neat.trimmed neat.given

@[simp]
theorem isBlank_append (a b : String) : isBlank (a ++ b) = (isBlank a && isBlank b) := by
  rw [isBlank, isBlank, isBlank, String.toList_append, List.all_append]

/-- A list of texts is not blank when one of them is not. -/
theorem isBlank_intercalate {separator s : String} {items : List String} (member : s ∈ items)
    (given : isBlank s = false) : isBlank (separator.intercalate items) = false := by
  induction items with
  | nil => cases member
  | cons first items ih =>
      cases items with
      | nil =>
          rw [String.intercalate_singleton, ← List.mem_singleton.mp member, given]
      | cons second items =>
          rw [String.intercalate_cons_cons, isBlank_append, isBlank_append]
          rcases List.mem_cons.mp member with rfl | member
          · simp [given]
          · simp [ih member]

/-- What is true of the characters of a list of texts and of the separator is true of all. -/
theorem forall_mem_intercalate {P : Char → Prop} {separator : String}
    (apart : ∀ c ∈ separator.toList, P c) {items : List String}
    (each : ∀ item ∈ items, ∀ c ∈ item.toList, P c) :
    ∀ c ∈ (separator.intercalate items).toList, P c := by
  induction items with
  | nil => exact fun c member => nomatch member
  | cons first items ih =>
      obtain ⟨own, rest⟩ := List.forall_mem_cons.mp each
      cases items with
      | nil => rwa [String.intercalate_singleton]
      | cons second items =>
          rw [String.intercalate_cons_cons, String.toList_append, String.toList_append]
          simp only [List.forall_mem_append]
          exact ⟨⟨own, apart⟩, ih rest⟩

theorem splitChars_eq_splitOn (separator : Char) (cs : List Char) :
    splitChars separator cs = cs.splitOn separator := by
  rw [List.splitOn_eq_splitOnP]
  induction cs with
  | nil => rfl
  | cons c cs ih =>
      rw [List.splitOnP_cons_eq_if_modifyHead, splitChars, ih]
      by_cases cut : c = separator
      · rw [if_pos cut, if_pos (beq_iff_eq.mpr cut)]
      · rw [if_neg cut, if_neg (beq_iff_eq.not.mpr cut)]
        cases parts : List.splitOnP (· == separator) cs with
        | nil => exact absurd parts (List.splitOnP_ne_nil _ _)
        | cons part parts => rfl

theorem splitChars_ne_nil (separator : Char) (cs : List Char) : splitChars separator cs ≠ [] := by
  rw [splitChars_eq_splitOn, List.splitOn_eq_splitOnP]
  exact List.splitOnP_ne_nil _ _

theorem splitChars_of_notMem {separator : Char} {cs : List Char} (absent : separator ∉ cs) :
    splitChars separator cs = [cs] := by
  rw [splitChars_eq_splitOn, List.splitOn_eq_splitOnP]
  refine List.splitOnP_eq_singleton fun c member => beq_eq_false_iff_ne.mpr ?_
  rintro rfl
  exact absent member

end Etl.Text
