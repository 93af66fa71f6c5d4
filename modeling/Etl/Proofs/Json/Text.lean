import Etl.Json.Raw
import Etl.Json.Value
import Etl.Proofs.Json.Numeral
import Etl.Proofs.Json.Quoted

/-!
Written JSON is read back as the tree of the value, however it is spaced. The text is first cut into
the tokens of the value, whatever blanks stand between them, and the tokens are then arranged.
-/

namespace Etl.Json

/-- The values whose numbers are all read back. -/
inductive Readable : Json → Prop
  | null : Readable .null
  | bool (b : Bool) : Readable (.bool b)
  | number {n : Number} (h : n.ReadsBack) : Readable (.number n)
  | text (s : String) : Readable (.text s)
  | list {items : List Json} (each : ∀ item ∈ items, Readable item) : Readable (.list items)
  | object {members : List (String × Json)} (each : ∀ member ∈ members, Readable member.2) :
      Readable (.object members)

theorem Readable.list_map {α : Type} {toJson : α → Json} {items : List α}
    (each : ∀ a ∈ items, Readable (toJson a)) : Readable (.list (items.map toJson)) := by
  apply Readable.list
  intro item member
  obtain ⟨a, listed, rfl⟩ := List.mem_map.mp member
  exact each a listed

/-- The tokens of a text. -/
def textLexeme (s : String) : Lexeme := .text ⟨.ok s, .ok ()⟩

mutual

/-- The tokens of a value. -/
def lexemes : Json → List Lexeme
  | null => [.word (.ok none)]
  | bool b => [.word (.ok (some b))]
  | number n => [.number ⟨.ok n, .ok ()⟩]
  | text s => [textLexeme s]
  | list [] => [.mark .openList, .mark .closeList]
  | list (item :: items) => .mark .openList :: (lexemes item ++ itemLexemes items)
  | object [] => [.mark .openObject, .mark .closeObject]
  | object ((key, value) :: members) =>
    .mark .openObject :: textLexeme key :: .mark .colon :: (lexemes value ++ memberLexemes members)

/-- The tokens of the items after the first, and the closing bracket. -/
def itemLexemes : List Json → List Lexeme
  | [] => [.mark .closeList]
  | item :: items => .mark .comma :: (lexemes item ++ itemLexemes items)

/-- The tokens of the members after the first, and the closing bracket. -/
def memberLexemes : List (String × Json) → List Lexeme
  | [] => [.mark .closeObject]
  | (key, value) :: members =>
    .mark .comma :: textLexeme key :: .mark .colon :: (lexemes value ++ memberLexemes members)

end

mutual

/-- A value as a tree without faults. -/
def raw : Json → Raw
  | null => .word (.ok none)
  | bool b => .word (.ok (some b))
  | number n => .number ⟨.ok n, .ok ()⟩
  | text s => .text ⟨.ok s, .ok ()⟩
  | list items => .list (rawItems items) .closed
  | object members => .object (rawMembers members) .closed

def rawItems : List Json → List Raw
  | [] => []
  | item :: items => raw item :: rawItems items

def rawMembers : List (String × Json) → List (Raw × Raw)
  | [] => []
  | (key, value) :: members => (.text ⟨.ok key, .ok ()⟩, raw value) :: rawMembers members

end

theorem rawItems_eq_map (items : List Json) : rawItems items = items.map raw := by
  induction items with
  | nil => rfl
  | cons item items ih => rw [rawItems, ih, List.map_cons]

theorem rawMembers_eq_map (members : List (String × Json)) :
    rawMembers members = members.map fun m => (.text ⟨.ok m.1, .ok ()⟩, raw m.2) := by
  induction members with
  | nil => rfl
  | cons member members ih => rw [rawMembers, ih, List.map_cons]

/-- A run of characters is cut into tokens, with enough fuel left for what follows it. -/
def Lexed (run rest : List Char) (tokens : List Lexeme) : Prop :=
  ∀ fuel, (run ++ rest).length ≤ fuel → ∃ left, rest.length ≤ left ∧
    Lexeme.scan fuel (run ++ rest) = tokens ++ Lexeme.scan left rest

namespace Lexed

variable {run more rest : List Char} {tokens others : List Lexeme}

theorem append (first : Lexed run (more ++ rest) tokens) (second : Lexed more rest others) :
    Lexed (run ++ more) rest (tokens ++ others) := by
  intro fuel enough
  rw [List.append_assoc] at enough ⊢
  obtain ⟨left, enough, scanned⟩ := first fuel enough
  obtain ⟨last, enough, ending⟩ := second left enough
  exact ⟨last, enough, by rw [scanned, ending, List.append_assoc]⟩

theorem blank (spaces : ∀ c ∈ run, isSpace c) : Lexed run rest [] := by
  induction run with
  | nil => exact fun fuel enough => ⟨fuel, enough, rfl⟩
  | cons c run ih =>
      intro fuel enough
      cases fuel with
      | zero => simp at enough
      | succ fuel =>
          have shorter : (run ++ rest).length ≤ fuel := by simpa using enough
          obtain ⟨left, enough, scanned⟩ :=
            ih (fun c member => spaces c (List.mem_cons_of_mem _ member)) fuel shorter
          refine ⟨left, enough, ?_⟩
          rw [List.cons_append, Lexeme.scan, if_pos (spaces c List.mem_cons_self), scanned]

theorem token {c : Char} {lexeme : Lexeme} (begins : isSpace c = false)
    (next : Lexeme.next c (run ++ rest) = (lexeme, rest)) : Lexed (c :: run) rest [lexeme] := by
  intro fuel enough
  cases fuel with
  | zero => simp at enough
  | succ fuel =>
      refine ⟨fuel, ?_, ?_⟩
      · simp only [List.cons_append, List.length_cons, List.length_append] at enough
        omega
      · have solid : ¬ isSpace c = true := by simp [begins]
        rw [List.cons_append, Lexeme.scan, if_neg solid, next]
        rfl

theorem mark {c : Char} {m : Mark} (is : Lexeme.markOf? c = some m) (begins : isSpace c = false) :
    Lexed [c] rest [.mark m] := by
  apply token begins
  rw [Lexeme.next, is]
  rfl

theorem text (s : String) : Lexed (Quoted.encode s.toList) rest [textLexeme s] := by
  apply token rfl
  have written := Quoted.read_encode s rest
  simp only [List.append_assoc, List.singleton_append]
  show (Lexeme.text (Quoted.read _).1, (Quoted.read _).2) = _
  rw [written]
  rfl

theorem number {n : Number} (h : n.ReadsBack) (ends : Numeral.Ends rest) :
    Lexed n.chars rest [.number ⟨.ok n, .ok ()⟩] := by
  have value := h.read_append ends
  obtain ⟨numeral, scanned, _⟩ := h
  obtain ⟨c, more, written, first⟩ := Numeral.head_of_scan scanned
  rw [written] at value ⊢
  have member : c ∈ ['-', '0', '1', '2', '3', '4', '5', '6', '7', '8', '9'] := by
    rcases first with rfl | digit
    · decide
    · simp only [Numeral.isDigit, Bool.and_eq_true, decide_eq_true_eq] at digit
      have low : 48 ≤ c.toNat := digit.1
      have high : c.toNat ≤ 57 := digit.2
      have each : ∀ k < 10, Char.ofNat (48 + k) ∈
          ['-', '0', '1', '2', '3', '4', '5', '6', '7', '8', '9'] := by decide
      have found := each (c.toNat - 48) (by omega)
      rw [Nat.add_sub_cancel' low, Char.ofNat_toNat] at found
      exact found
  have next : Lexeme.next c (more ++ rest) =
      (.number (Numeral.read (c :: more ++ rest)).1, (Numeral.read (c :: more ++ rest)).2) ∧
        isSpace c = false := by
    simp only [List.mem_cons, List.not_mem_nil, or_false] at member
    rcases member with rfl | rfl | rfl | rfl | rfl | rfl | rfl | rfl | rfl | rfl | rfl
    all_goals exact ⟨rfl, rfl⟩
  apply token next.2
  rw [next.1, value]

end Lexed

/-- A way to write that puts nothing but blanks between the tokens. -/
structure Spacing.IsBlank (spacing : Spacing) : Prop where
  line : ∀ depth, ∀ c ∈ spacing.line depth, isSpace c
  colon : ∀ c ∈ spacing.colon, isSpace c

theorem Spacing.compact_isBlank : Spacing.compact.IsBlank where
  line _ _ member := absurd member List.not_mem_nil
  colon _ member := absurd member List.not_mem_nil

theorem Spacing.indented_isBlank : Spacing.indented.IsBlank where
  line depth c member := by
    rcases List.mem_cons.mp member with rfl | member
    · rfl
    · rw [List.eq_of_mem_replicate member]
      rfl
  colon c member := by
    rw [List.mem_singleton.mp member]
    rfl

/-- A blank ends a numeral. -/
theorem ends_of_blank {run rest : List Char} (spaces : ∀ c ∈ run, isSpace c)
    (ends : Numeral.Ends rest) : Numeral.Ends (run ++ rest) := by
  cases run with
  | nil => exact ends
  | cons c run =>
      intro first same
      obtain rfl := Option.some.inj same
      have space := spaces c List.mem_cons_self
      simp only [isSpace, Bool.or_eq_true, decide_eq_true_eq] at space
      rcases space with ((rfl | rfl) | rfl) | rfl
      all_goals decide

theorem ends_cons {c : Char} {rest : List Char}
    (plain : Numeral.isDigit c = false ∧ c ≠ '.' ∧ c ≠ 'e' ∧ c ≠ 'E') :
    Numeral.Ends (c :: rest) := by
  intro first same
  obtain rfl := Option.some.inj same
  exact plain

section Write

variable {spacing : Spacing} (blank : spacing.IsBlank)

include blank

theorem ends_writeItems (depth : Nat) (items : List Json) (rest : List Char) :
    Numeral.Ends (writeItems spacing depth items ++ rest) := by
  cases items with
  | nil =>
      rw [writeItems, List.append_assoc]
      exact ends_of_blank (blank.line depth) (ends_cons (by decide))
  | cons item items =>
      rw [writeItems]
      exact ends_cons (by decide)

theorem ends_writeMembers (depth : Nat) (members : List (String × Json)) (rest : List Char) :
    Numeral.Ends (writeMembers spacing depth members ++ rest) := by
  cases members with
  | nil =>
      rw [writeMembers, List.append_assoc]
      exact ends_of_blank (blank.line depth) (ends_cons (by decide))
  | cons member members =>
      rw [writeMembers]
      exact ends_cons (by decide)

/-- A mark with the blanks behind it. -/
theorem lexed_opening {c : Char} {m : Mark} (is : Lexeme.markOf? c = some m)
    (begins : isSpace c = false) (depth : Nat) (rest : List Char) :
    Lexed (c :: spacing.line depth) rest [.mark m] :=
  (Lexed.mark is begins).append (Lexed.blank (blank.line depth))

theorem lexed_writeItems (depth : Nat) {items : List Json} (rest : List Char)
    (each : ∀ item ∈ items, ∀ depth rest, Numeral.Ends rest →
      Lexed (write spacing depth item) rest item.lexemes) :
    Lexed (writeItems spacing depth items) rest (itemLexemes items) := by
  induction items with
  | nil =>
      rw [writeItems]
      exact (Lexed.blank (blank.line depth)).append (.mark rfl rfl)
  | cons item items ih =>
      have value := each item List.mem_cons_self (depth + 1)
        (writeItems spacing depth items ++ rest) (ends_writeItems blank depth items rest)
      have others := ih fun item member => each item (List.mem_cons_of_mem _ member)
      exact ((lexed_opening blank rfl rfl (depth + 1) _).append value).append others

/-- A member from its opening mark to the end of its value. -/
theorem lexed_member {depth : Nat} {c : Char} {m : Mark} (is : Lexeme.markOf? c = some m)
    (begins : isSpace c = false) {key : String} {value : Json} {rest : List Char}
    (written : Lexed (write spacing (depth + 1) value) rest value.lexemes) :
    Lexed (c :: spacing.line (depth + 1) ++ Quoted.encode key.toList ++ ':' :: spacing.colon ++
      write spacing (depth + 1) value) rest
      (.mark m :: textLexeme key :: .mark .colon :: value.lexemes) := by
  have head := lexed_opening blank is begins (depth + 1)
  have colon : ∀ rest, Lexed (':' :: spacing.colon) rest [.mark .colon] := fun rest =>
    (Lexed.mark rfl rfl).append (Lexed.blank blank.colon)
  exact (((head _).append (.text key)).append (colon _)).append written

theorem lexed_writeMembers (depth : Nat) {members : List (String × Json)} (rest : List Char)
    (each : ∀ member ∈ members, ∀ depth rest, Numeral.Ends rest →
      Lexed (write spacing depth member.2) rest member.2.lexemes) :
    Lexed (writeMembers spacing depth members) rest (memberLexemes members) := by
  induction members with
  | nil =>
      rw [writeMembers]
      exact (Lexed.blank (blank.line depth)).append (.mark rfl rfl)
  | cons member members ih =>
      have value := each member List.mem_cons_self (depth + 1)
        (writeMembers spacing depth members ++ rest) (ends_writeMembers blank depth members rest)
      have others := ih fun member' found => each member' (List.mem_cons_of_mem _ found)
      exact (lexed_member blank rfl rfl value).append others

/-- A written value is cut into its tokens. -/
theorem lexed_write {j : Json} (readable : Readable j) (depth : Nat) {rest : List Char}
    (ends : Numeral.Ends rest) : Lexed (write spacing depth j) rest j.lexemes := by
  induction readable generalizing depth rest with
  | null => exact .token rfl rfl
  | bool b => cases b <;> exact .token rfl rfl
  | number h => exact .number h ends
  | text s => exact .text s
  | @list items each ih =>
      cases items with
      | nil => exact (Lexed.mark (c := '[') rfl rfl).append (.mark rfl rfl)
      | cons item items =>
          have value := ih item List.mem_cons_self (depth + 1)
            (ends_writeItems blank depth items rest)
          have others := lexed_writeItems blank depth rest
            fun item member depth _ ends => ih item (List.mem_cons_of_mem _ member) depth ends
          exact ((lexed_opening blank rfl rfl (depth + 1) _).append value).append others
  | @object members each ih =>
      cases members with
      | nil => exact (Lexed.mark (c := '\x7b') rfl rfl).append (.mark rfl rfl)
      | cons member members =>
          have value := ih member List.mem_cons_self (depth + 1)
            (ends_writeMembers blank depth members rest)
          have others := lexed_writeMembers blank depth rest
            fun member found depth _ ends => ih member (List.mem_cons_of_mem _ found) depth ends
          exact (lexed_member blank rfl rfl value).append others

end Write

/-- The tokens of a value do not begin with a closing bracket. -/
theorem exists_lexemes_eq_cons (j : Json) : ∃ first more, j.lexemes = first :: more ∧
    first ≠ .mark .closeList := by
  cases j with
  | null => exact ⟨_, _, rfl, by simp⟩
  | bool b => exact ⟨_, _, rfl, by simp⟩
  | number n => exact ⟨_, _, rfl, by simp⟩
  | text s => exact ⟨_, _, rfl, by simp [textLexeme]⟩
  | list items => cases items <;> exact ⟨_, _, rfl, by simp⟩
  | object members => cases members <;> exact ⟨_, _, rfl, by simp⟩

/-- The tokens of a value are arranged as its tree. -/
def Arranged (j : Json) : Prop :=
  ∀ fuel rest, 2 * j.lexemes.length ≤ fuel → Raw.arrange fuel (j.lexemes ++ rest) = (j.raw, rest)

theorem arrangeItems_lexemes {item : Json} {items : List Json} {fuel : Nat}
    (each : ∀ j ∈ item :: items, Arranged j) (rest : List Lexeme)
    (enough : 2 * (item.lexemes.length + (itemLexemes items).length) ≤ fuel) :
    Raw.arrangeItems fuel (item.lexemes ++ (itemLexemes items ++ rest)) =
      (rawItems (item :: items), .closed, rest) := by
  induction items generalizing item fuel with
  | nil =>
      cases fuel with
      | zero => simp [itemLexemes] at enough
      | succ fuel =>
          have value := each item List.mem_cons_self fuel (itemLexemes [] ++ rest)
            (by simp only [itemLexemes, List.length_cons, List.length_nil] at enough; omega)
          rw [Raw.arrangeItems, value]
          rfl
  | cons second items ih =>
      cases fuel with
      | zero => simp [itemLexemes] at enough
      | succ fuel =>
          simp only [itemLexemes, List.length_cons, List.length_append] at enough
          have value := each item List.mem_cons_self fuel (itemLexemes (second :: items) ++ rest)
            (by omega)
          have others : Raw.arrangeItems fuel (second.lexemes ++ (itemLexemes items ++ rest)) =
              (rawItems (second :: items), .closed, rest) :=
            ih (fun j member => each j (List.mem_cons_of_mem _ member)) (by omega)
          rw [Raw.arrangeItems, value]
          simp only [itemLexemes, List.cons_append, List.append_assoc, others]
          rfl

theorem arrangeMembers_lexemes {key : String} {value : Json} {members : List (String × Json)}
    {fuel : Nat} (each : ∀ member ∈ (key, value) :: members, Arranged member.2)
    (rest : List Lexeme)
    (enough : 2 * (2 + value.lexemes.length + (memberLexemes members).length) ≤ fuel) :
    Raw.arrangeMembers fuel
        (textLexeme key :: .mark .colon :: (value.lexemes ++ (memberLexemes members ++ rest))) =
      (rawMembers ((key, value) :: members), .closed, rest) := by
  have name : ∀ fuel more, Raw.arrange (fuel + 1) (textLexeme key :: more) =
      (.text ⟨.ok key, .ok ()⟩, more) := fun _ _ => rfl
  induction members generalizing key value fuel with
  | nil =>
      obtain ⟨fuel, rfl⟩ : ∃ less, fuel = less + 2 := ⟨fuel - 2, by omega⟩
      simp only [memberLexemes, List.length_cons, List.length_nil] at enough
      have found := each (key, value) List.mem_cons_self (fuel + 1) (memberLexemes [] ++ rest)
        (by simp only; omega)
      rw [Raw.arrangeMembers, name]
      simp only [found]
      rfl
  | cons second members ih =>
      obtain ⟨fuel, rfl⟩ : ∃ less, fuel = less + 2 := ⟨fuel - 2, by omega⟩
      simp only [memberLexemes, List.length_cons, List.length_append] at enough
      have found := each (key, value) List.mem_cons_self (fuel + 1)
        (memberLexemes (second :: members) ++ rest) (by simp only; omega)
      have others : Raw.arrangeMembers (fuel + 1) (textLexeme second.1 :: .mark .colon ::
          (second.2.lexemes ++ (memberLexemes members ++ rest))) =
          (rawMembers (second :: members), .closed, rest) :=
        ih (fun member found => each member (List.mem_cons_of_mem _ found)) (by omega)
          fun _ _ => rfl
      rw [Raw.arrangeMembers, name]
      simp only [found]
      simp only [memberLexemes, List.cons_append, List.append_assoc, others]
      rfl

theorem Arranged.of_step {j : Json}
    (step : ∀ fuel rest, Raw.arrange (fuel + 1) (j.lexemes ++ rest) = (j.raw, rest)) :
    Arranged j := by
  intro fuel rest enough
  obtain ⟨first, more, head, _⟩ := exists_lexemes_eq_cons j
  cases fuel with
  | zero => simp [head] at enough
  | succ fuel => exact step fuel rest

/-- A list that does not close at once begins with an item. -/
theorem arrange_openList {fuel : Nat} {first : Lexeme} {more : List Lexeme}
    (item : first ≠ .mark .closeList) :
    Raw.arrange (fuel + 1) (.mark .openList :: first :: more) =
      (.list (Raw.arrangeItems fuel (first :: more)).1 (Raw.arrangeItems fuel (first :: more)).2.1,
        (Raw.arrangeItems fuel (first :: more)).2.2) := by
  simp only [Raw.arrange]
  split
  next same => exact absurd (List.cons.inj same).1 item
  next none => cases none
  next => rfl

/-- Two steps for each token are enough to arrange a value. -/
theorem arranged {j : Json} (readable : Readable j) : Arranged j := by
  induction readable with
  | null => exact .of_step fun _ _ => rfl
  | bool b => exact .of_step fun _ _ => rfl
  | number h => exact .of_step fun _ _ => rfl
  | text s => exact .of_step fun _ _ => rfl
  | @list items each ih =>
      cases items with
      | nil => exact .of_step fun _ _ => rfl
      | cons item items =>
          intro fuel rest enough
          simp only [lexemes, List.length_cons, List.length_append] at enough
          obtain ⟨fuel, rfl⟩ : ∃ less, fuel = less + 1 := ⟨fuel - 1, by omega⟩
          have found : Raw.arrangeItems fuel (item.lexemes ++ (itemLexemes items ++ rest)) =
              (rawItems (item :: items), .closed, rest) :=
            arrangeItems_lexemes ih rest (by omega)
          obtain ⟨first, more, head, other⟩ := exists_lexemes_eq_cons item
          rw [head, List.cons_append] at found
          rw [lexemes, head, List.cons_append, List.cons_append, List.cons_append,
            List.append_assoc, arrange_openList other, found]
          rfl
  | @object members each ih =>
      cases members with
      | nil => exact .of_step fun _ _ => rfl
      | cons member members =>
          intro fuel rest enough
          simp only [lexemes, List.length_cons, List.length_append] at enough
          obtain ⟨fuel, rfl⟩ : ∃ less, fuel = less + 1 := ⟨fuel - 1, by omega⟩
          have found : Raw.arrangeMembers fuel (textLexeme member.1 :: .mark .colon ::
              (member.2.lexemes ++ (memberLexemes members ++ rest))) =
              (rawMembers (member :: members), .closed, rest) :=
            arrangeMembers_lexemes ih rest (by omega)
          have opened : Raw.arrange (fuel + 1) (.mark .openObject :: textLexeme member.1 ::
              .mark .colon :: (member.2.lexemes ++ (memberLexemes members ++ rest))) =
              (.object (rawMembers (member :: members)) .closed, rest) := by
            rw [textLexeme] at found ⊢
            simp only [Raw.arrange, found]
          simp only [lexemes, List.cons_append, List.append_assoc]
          exact opened

/-- A written text is read back as the tree of its value, with nothing behind it. -/
theorem ofText_write {spacing : Spacing} (blank : spacing.IsBlank) {j : Json}
    (readable : Readable j) {behind : List Char} (spaces : ∀ c ∈ behind, isSpace c) :
    Raw.ofText (String.ofList (j.write spacing 0 ++ behind)) = (j.raw, false) := by
  have ends : Numeral.Ends behind := by
    have nothing : Numeral.Ends [] := fun _ none => absurd none (by simp)
    have ends := ends_of_blank spaces nothing
    rw [List.append_nil] at ends
    exact ends
  have lexed : Lexed (j.write spacing 0 ++ behind) [] (j.lexemes ++ []) :=
    (lexed_write blank readable 0 (by simpa using ends)).append (.blank spaces)
  obtain ⟨left, _, scanned⟩ := lexed (j.write spacing 0 ++ behind).length (by simp)
  have nothing : Lexeme.scan left [] = [] := by cases left <;> rfl
  rw [nothing, List.append_nil, List.append_nil, List.append_nil] at scanned
  have tree := arranged readable (2 * j.lexemes.length + 1) [] (by omega)
  rw [List.append_nil] at tree
  rw [Raw.ofText, String.toList_ofList]
  simp only [scanned, tree, List.isEmpty_nil, Bool.not_true]

end Etl.Json
