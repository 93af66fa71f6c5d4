import Etl.Proofs.Text
import Etl.Sql.Name

/-!
Reading names and text values back. One reader takes a name apart into the parts that it was put
together from, another one gives the text that was put between quotes, and both stop where the name
or the text stops, whatever characters it has.
-/

namespace Etl.Sql

/-- Reads what stands between quotes up to the closing one; two quotes stand for one. -/
def readEnclosed (quote : Char) : List Char → Option (List Char × List Char)
  | [] => none
  | [c] => if c = quote then some ([], []) else none
  | c :: d :: rest =>
    if c = quote then
      if d = quote then (readEnclosed quote rest).map fun r => (quote :: r.1, r.2)
      else some ([], d :: rest)
    else (readEnclosed quote (d :: rest)).map fun r => (c :: r.1, r.2)

/-- Reads a plain word, or one part between double quotes. -/
def readPart : List Char → Option (List Char × List Char)
  | [] => none
  | c :: cs =>
    if c = '\x22' then readEnclosed '\x22' cs
    else if isWord ((c :: cs).takeWhile isWordChar) then
      some ((c :: cs).takeWhile isWordChar, (c :: cs).dropWhile isWordChar)
    else none

theorem readEnclosed_cons_of_ne {quote c : Char} (other : c ≠ quote) (cs : List Char) :
    readEnclosed quote (c :: cs) = (readEnclosed quote cs).map fun r => (c :: r.1, r.2) := by
  cases cs with
  | nil => simp [readEnclosed, other]
  | cons d cs => rw [readEnclosed, if_neg other]

theorem readEnclosed_doubled (quote : Char) (cs : List Char) :
    readEnclosed quote (quote :: quote :: cs) =
      (readEnclosed quote cs).map fun r => (quote :: r.1, r.2) := by
  rw [readEnclosed, if_pos rfl, if_pos rfl]

/-- A quote that no other one follows is the closing one. -/
theorem readEnclosed_closed {quote : Char} {rest : List Char}
    (closed : ∀ c ∈ rest.head?, c ≠ quote) :
    readEnclosed quote (quote :: rest) = some ([], rest) := by
  cases rest with
  | nil => rw [readEnclosed, if_pos rfl]
  | cons d rest => rw [readEnclosed, if_pos rfl, if_neg (closed d rfl)]

theorem length_of_readEnclosed {quote : Char} {cs text after : List Char}
    (read : readEnclosed quote cs = some (text, after)) : after.length < cs.length := by
  fun_induction readEnclosed quote cs generalizing text with
  | case1 => cases read
  | case2 =>
      cases read
      exact Nat.zero_lt_one
  | case3 => cases read
  | case4 rest ih =>
      obtain ⟨r, inner, same⟩ := Option.map_eq_some_iff.mp read
      cases same
      exact Nat.lt_succ_of_lt (Nat.lt_succ_of_lt (ih inner))
  | case5 d rest =>
      cases read
      exact Nat.lt_succ_self _
  | case6 c d rest _ ih =>
      obtain ⟨r, inner, same⟩ := Option.map_eq_some_iff.mp read
      cases same
      exact Nat.lt_succ_of_lt (ih inner)

theorem length_of_readPart {cs part after : List Char} (read : readPart cs = some (part, after)) :
    after.length < cs.length := by
  cases cs with
  | nil => cases read
  | cons c cs =>
      rw [readPart] at read
      split at read
      · exact Nat.lt_succ_of_lt (length_of_readEnclosed read)
      · split at read
        next word =>
          cases read
          -- A word has at least one character.
          have some : (c :: cs).takeWhile isWordChar ≠ [] := by
            intro nothing
            rw [nothing] at word
            cases word
          have whole := congrArg List.length
            (List.takeWhile_append_dropWhile (p := isWordChar) (l := c :: cs))
          rw [List.length_append] at whole
          have positive := List.length_pos_iff.mpr some
          omega
        next => cases read

/-- Reads parts with dots between them. -/
def readName (cs : List Char) : Option (List String × List Char) :=
  match _read : readPart cs with
  | none => none
  | some (part, '.' :: more) => (readName more).map fun r => (String.ofList part :: r.1, r.2)
  | some (part, after) => some ([String.ofList part], after)
termination_by cs.length
decreasing_by
  have shorter := length_of_readPart _read
  rw [List.length_cons] at shorter
  omega

/-- Reads a text between single quotes. -/
def readText : List Char → Option (String × List Char)
  | [] => none
  | c :: cs =>
    if c = '\x27' then (readEnclosed '\x27' cs).map fun r => (String.ofList r.1, r.2) else none

/-- The parts of a name that is nothing else. -/
def decodeName (text : String) : Option (List String) :=
  match readName text.toList with
  | some (parts, []) => some parts
  | _ => none

/-- The value of a text between single quotes that is nothing else. -/
def decodeText (text : String) : Option String :=
  match readText text.toList with
  | some (value, []) => some value
  | _ => none

/-- A character at which a name or a text in front of it is over. -/
def isStop (c : Char) : Bool := !isWordChar c && c != '\x22' && c != '\x27' && c != '.'

theorem isStop_iff {c : Char} :
    isStop c ↔ (isWordChar c = false ∧ c ≠ '\x22') ∧ c ≠ '\x27' ∧ c ≠ '.' := by
  simp [isStop, and_assoc]

/-- What follows does not go on with the name or text in front of it. -/
def Stops (rest : List Char) : Prop := ∀ c ∈ rest.head?, isStop c

theorem stops_nil : Stops [] := nofun

theorem Stops.text {text : String} (ends : text.toList.head?.any isStop) (rest : String) :
    Stops (text ++ rest).toList := by
  intro c found
  rw [String.toList_append, List.head?_append] at found
  cases first : text.toList.head? with
  | none => rw [first] at ends; cases ends
  | some d => rw [first] at ends found; cases found; exact ends

section Enclosed

variable {quote : Char} {rest : List Char}

theorem readEnclosed_doubled_closed (text : List Char) (closed : ∀ c ∈ rest.head?, c ≠ quote) :
    readEnclosed quote
        ((text.flatMap fun c => if c = quote then [quote, quote] else [c]) ++ quote :: rest) =
      some (text, rest) := by
  induction text with
  | nil => exact readEnclosed_closed closed
  | cons c text ih =>
      rw [List.flatMap_cons, List.append_assoc]
      -- A quote inside comes doubled, so it cannot be taken for the closing one.
      by_cases same : c = quote
      · rw [if_pos same, List.cons_append, List.cons_append, List.nil_append,
          readEnclosed_doubled, ih, same]
        rfl
      · rw [if_neg same, List.singleton_append, readEnclosed_cons_of_ne same, ih]
        rfl

/-- What is put between quotes is read back, and nothing behind it. -/
theorem exists_enclose_append (text : List Char) (closed : ∀ c ∈ rest.head?, c ≠ quote) :
    ∃ inner, enclose quote text ++ rest = quote :: inner ∧
      readEnclosed quote inner = some (text, rest) :=
  ⟨_, by simp [enclose], readEnclosed_doubled_closed text closed⟩

end Enclosed

theorem readPart_word {word rest : List Char} (plain : isWord word)
    (ends : ∀ c ∈ rest.head?, isWordChar c = false) :
    readPart (word ++ rest) = some (word, rest) := by
  cases word with
  | nil => cases plain
  | cons c cs =>
      have all : ∀ d ∈ c :: cs, isWordChar d := by
        rw [isWord, Bool.and_eq_true] at plain
        exact List.all_eq_true.mp plain.2
      have noQuote : c ≠ '\x22' := by
        rintro rfl
        exact absurd (all _ List.mem_cons_self) (by decide)
      have cut : rest.takeWhile isWordChar = [] ∧ rest.dropWhile isWordChar = rest := by
        cases rest with
        | nil => exact ⟨rfl, rfl⟩
        | cons d rest => simp [ends d rfl]
      have taken : (c :: (cs ++ rest)).takeWhile isWordChar = c :: cs := by
        rw [← List.cons_append, List.takeWhile_append_of_pos all, cut.1, List.append_nil]
      have left : (c :: (cs ++ rest)).dropWhile isWordChar = rest := by
        rw [← List.cons_append, List.dropWhile_append_of_pos all, cut.2]
      rw [List.cons_append, readPart, if_neg noQuote, taken, left, if_pos plain]

theorem readPart_quoteName (name : String) {rest : List Char}
    (ends : ∀ c ∈ rest.head?, isWordChar c = false ∧ c ≠ '\x22') :
    readPart ((quoteName name).toList ++ rest) = some (name.toList, rest) := by
  rw [quoteName]
  split
  next word => exact readPart_word word fun c first => (ends c first).1
  next =>
    obtain ⟨inner, same, read⟩ := exists_enclose_append name.toList fun c first => (ends c first).2
    rw [String.toList_ofList, same, readPart, if_pos rfl, read]

theorem readText_quoteText (text : String) {rest : List Char}
    (closed : ∀ c ∈ rest.head?, c ≠ '\x27') :
    readText ((quoteText text).toList ++ rest) = some (text, rest) := by
  obtain ⟨inner, same, read⟩ := exists_enclose_append text.toList closed
  rw [quoteText, String.toList_ofList, same, readText, if_pos rfl, read, Option.map_some,
    String.ofList_toList]

theorem readName_of_dot {cs part more : List Char} (read : readPart cs = some (part, '.' :: more)) :
    readName cs = (readName more).map fun r => (String.ofList part :: r.1, r.2) := by
  rw [readName]
  split
  next none => cases read.symm.trans none
  next other => cases read.symm.trans other; rfl
  next no_dot other => cases read.symm.trans other; exact absurd rfl (no_dot more)

theorem readName_of_stop {cs part after : List Char} (read : readPart cs = some (part, after))
    (last : ∀ c ∈ after.head?, c ≠ '.') : readName cs = some ([String.ofList part], after) := by
  rw [readName]
  split
  next none => cases read.symm.trans none
  next other => cases read.symm.trans other; exact absurd rfl (last '.' rfl)
  next other => cases read.symm.trans other; rfl

/-- Parts with dots between them, each a plain word or between quotes. -/
def dotted (parts : List String) : String := ".".intercalate (parts.map quoteName)

@[simp]
theorem dotted_singleton (part : String) : dotted [part] = quoteName part :=
  String.intercalate_singleton

theorem dotted_cons_cons (part next : String) (parts : List String) :
    (dotted (part :: next :: parts)).toList =
      (quoteName part).toList ++ '.' :: (dotted (next :: parts)).toList := by
  rw [dotted, List.map_cons, List.map_cons, String.intercalate_cons_cons, String.append_assoc,
    String.toList_append, String.toList_append]
  rfl

theorem readName_dotted {parts : List String} (given : parts ≠ []) {rest : List Char}
    (stops : Stops rest) : readName ((dotted parts).toList ++ rest) = some (parts, rest) := by
  induction parts with
  | nil => exact absurd rfl given
  | cons part parts ih =>
      cases parts with
      | nil =>
          have read := readPart_quoteName part fun c first => (isStop_iff.mp (stops c first)).1
          have last := readName_of_stop read fun c first => (isStop_iff.mp (stops c first)).2.2
          rw [dotted_singleton, last, String.ofList_toList]
      | cons next parts =>
          -- A dot goes on with no word and is no second quote, so the first part ends there.
          have dot : ∀ c ∈ ('.' :: ((dotted (next :: parts)).toList ++ rest)).head?,
              isWordChar c = false ∧ c ≠ '\x22' := by
            rintro c ⟨⟩
            decide
          rw [dotted_cons_cons, List.append_assoc, List.cons_append,
            readName_of_dot (readPart_quoteName part dot), ih nofun, Option.map_some,
            String.ofList_toList]

theorem decodeName_dotted {parts : List String} (given : parts ≠ []) :
    decodeName (dotted parts) = some parts := by
  have read := readName_dotted given stops_nil
  rw [List.append_nil] at read
  rw [decodeName, read]

theorem decodeText_quoteText (text : String) : decodeText (quoteText text) = some text := by
  have read : readText ((quoteText text).toList ++ []) = some (text, []) :=
    readText_quoteText text nofun
  rw [List.append_nil] at read
  rw [decodeText, read]

/-- Nothing can be read from an empty text. -/
theorem decodeName_empty : decodeName "" = none := by
  rw [decodeName, String.toList_empty, readName]
  rfl

theorem dotted_injective : Function.Injective dotted := by
  intro a b same
  have absent {parts : List String} (empty : dotted [] = dotted parts) : parts = [] := by
    by_contra given
    have read := decodeName_dotted given
    rw [← empty] at read
    cases decodeName_empty.symm.trans read
  cases a with
  | nil => exact (absent same).symm
  | cons part parts =>
      cases b with
      | nil => exact absent same.symm
      | cons other others =>
          have left := decodeName_dotted (List.cons_ne_nil part parts)
          have right := decodeName_dotted (List.cons_ne_nil other others)
          rw [same, right] at left
          exact (Option.some.inj left).symm

/-- The parts of a schema, where one is given, and then the parts of a table. -/
def tableParts (schema : Option String) (table : String) : List String :=
  (schema.map (Text.split '.')).getD [] ++ Text.split '.' table

theorem tableName_eq (schema : Option String) (table : String) :
    tableName schema table = dotted (tableParts schema table) := rfl

theorem tableParts_ne_nil (schema : Option String) (table : String) :
    tableParts schema table ≠ [] := by
  simp [tableParts, Text.split, Text.splitChars_ne_nil]

end Etl.Sql
