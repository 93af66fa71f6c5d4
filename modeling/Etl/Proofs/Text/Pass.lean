import Mathlib.Data.List.Find
import Mathlib.Data.List.Induction
import Mathlib.Data.List.Nodup
import Mathlib.Data.List.Perm.Basic
import Etl.Text.Replace

/-!
Several replacements in one pass over a text. Patterns in double braces do not overlap, and a
replacement that has no braces, but a character that is in no pattern, completes none. Where all
entries of a table are of this kind, one pass over the text does what the replacements do one after
the other, in whatever order.
-/

namespace Etl.Text

/-- The first entry whose pattern a text begins with. -/
def entryAt (table : List (String × String)) (cs : List Char) : Option (String × String) :=
  table.find? fun e => e.1.toList.isPrefixOf cs

/-- Goes over a text once. Where a pattern begins its replacement is written, and every other
character is copied; `skip` counts the characters of an occurrence still to be passed. -/
def passChars (table : List (String × String)) : Nat → List Char → List Char
  | _, [] => []
  | skip + 1, _ :: cs => passChars table skip cs
  | 0, c :: cs =>
    match entryAt table (c :: cs) with
    | some e => e.2.toList ++ passChars table (e.1.toList.length - 1) cs
    | none => c :: passChars table 0 cs

/-- Replaces all patterns of a table at once. -/
def pass (table : List (String × String)) (text : String) : String :=
  String.ofList (passChars table 0 text.toList)

variable {table : List (String × String)}

theorem replaceChars_eq (pattern replacement : String) (skip : Nat) (cs : List Char) :
    replaceChars pattern.toList replacement.toList skip cs =
      passChars [(pattern, replacement)] skip cs := by
  induction cs generalizing skip with
  | nil => cases skip <;> rfl
  | cons c cs ih =>
      cases skip with
      | succ skip => exact ih skip
      | zero =>
          rw [replaceChars, passChars, entryAt, List.find?_singleton]
          cases pattern.toList.isPrefixOf (c :: cs) with
          | true => exact congrArg (replacement.toList ++ ·) (ih _)
          | false => exact congrArg (c :: ·) (ih 0)

/-- A single replacement is a pass with one entry. -/
theorem replaceAll_eq (pattern replacement s : String) :
    replaceAll pattern replacement s = pass [(pattern, replacement)] s := by
  rw [replaceAll, replaceChars_eq, pass]

theorem passChars_skip (skip : Nat) (cs : List Char) :
    passChars table skip cs = passChars table 0 (cs.drop skip) := by
  induction cs generalizing skip with
  | nil => simp [passChars]
  | cons c cs ih =>
      cases skip with
      | zero => rfl
      | succ skip => exact ih skip

theorem entryAt_eq_none {cs : List Char} :
    entryAt table cs = none ↔ ∀ e ∈ table, ¬ e.1.toList <+: cs := by
  simp [entryAt, List.isPrefixOf_iff_prefix]

theorem prefix_of_entryAt {cs : List Char} {e : String × String}
    (found : entryAt table cs = some e) : e.1.toList <+: cs := by
  rw [entryAt] at found
  simpa [List.isPrefixOf_iff_prefix] using List.find?_some found

theorem passChars_of_entryAt_eq_none {c : Char} {cs : List Char}
    (free : entryAt table (c :: cs) = none) :
    passChars table 0 (c :: cs) = c :: passChars table 0 cs := by
  rw [passChars, free]

theorem passChars_of_entryAt {e : String × String} {rest : List Char} (given : e.1.toList ≠ [])
    (found : entryAt table (e.1.toList ++ rest) = some e) :
    passChars table 0 (e.1.toList ++ rest) = e.2.toList ++ passChars table 0 rest := by
  cases chars : e.1.toList with
  | nil => exact absurd chars given
  | cons c cs =>
      rw [chars, List.cons_append] at found
      rw [List.cons_append, passChars, found]
      simp only [chars, List.length_cons, Nat.add_sub_cancel]
      rw [passChars_skip, List.drop_left]

/-- Text with a pass over it: it ends, an entry's pattern comes, or a character to be copied. -/
theorem pass_induction (given : ∀ e ∈ table, e.1.toList ≠ []) {motive : List Char → Prop}
    (nil : motive [])
    (found : ∀ e ∈ table, ∀ rest, entryAt table (e.1.toList ++ rest) = some e → motive rest →
      motive (e.1.toList ++ rest))
    (other : ∀ c cs, entryAt table (c :: cs) = none → motive cs → motive (c :: cs))
    (cs : List Char) : motive cs := by
  generalize size : cs.length = n
  induction n using Nat.strongRecOn generalizing cs with
  | _ n ih =>
      cases cs with
      | nil => exact nil
      | cons c cs =>
          cases search : entryAt table (c :: cs) with
          | none => exact other c cs search (ih cs.length (by simp [← size]) cs rfl)
          | some e =>
              have member := List.mem_of_find?_eq_some search
              obtain ⟨rest, whole⟩ := prefix_of_entryAt search
              have shorter : rest.length < n := by
                have some := List.length_pos_iff.mpr (given e member)
                rw [← size, ← whole, List.length_append]
                omega
              rw [← whole] at search ⊢
              exact found e member rest search (ih rest.length shorter rest rfl)

/-- Text without braces. -/
def Braceless (cs : List Char) : Prop := '\x7b' ∉ cs ∧ '\x7d' ∉ cs

theorem braceless_append {front back : List Char} :
    Braceless (front ++ back) ↔ Braceless front ∧ Braceless back := by
  simp only [Braceless, List.mem_append, not_or]
  tauto

instance (cs : List Char) : Decidable (Braceless cs) := inferInstanceAs (Decidable (_ ∧ _))

/-- Text between double braces. -/
def embrace (cs : List Char) : List Char := '\x7b' :: '\x7b' :: (cs ++ ['\x7d', '\x7d'])

theorem mem_embrace {c : Char} {cs : List Char} :
    c ∈ embrace cs ↔ c = '\x7b' ∨ c ∈ cs ∨ c = '\x7d' := by
  simp [embrace]

/-- An entry of a table whose patterns are made of certain characters and do not overlap. Its
replacement completes no pattern. -/
structure Independent (inPattern : Char → Bool) (e : String × String) : Prop where
  embraced : ∃ body, e.1.toList = embrace body ∧ Braceless body
  made : ∀ c ∈ e.1.toList, inPattern c
  braceless : Braceless e.2.toList
  foreign : ∃ c ∈ e.2.toList, inPattern c = false

theorem Independent.getLast?_pattern {inPattern : Char → Bool} {e : String × String}
    (independent : Independent inPattern e) : e.1.toList.getLast? = some '\x7d' := by
  obtain ⟨body, whole, -⟩ := independent.embraced
  have ends : embrace body = '\x7b' :: '\x7b' :: (body ++ ['\x7d']) ++ ['\x7d'] := by
    simp [embrace]
  rw [whole, ends, List.getLast?_concat]

theorem Independent.pattern_ne_nil {inPattern : Char → Bool} {e : String × String}
    (independent : Independent inPattern e) : e.1.toList ≠ [] := by
  obtain ⟨body, whole, -⟩ := independent.embraced
  rw [whole]
  exact List.cons_ne_nil _ _

theorem embrace_inj {a b : List Char} : embrace a = embrace b ↔ a = b := by
  simp [embrace]

/-- Two texts in braces begin alike only when they are the same. -/
theorem embrace_prefix_iff {body other rest : List Char} (left : Braceless body)
    (right : Braceless other) : embrace body <+: embrace other ++ rest ↔ body = other := by
  constructor
  · intro begins
    simp only [embrace, List.cons_append, List.cons_prefix_cons, true_and, List.append_assoc]
      at begins
    obtain ⟨tail, same⟩ := begins
    rw [List.append_assoc] at same
    rcases List.append_eq_append_iff.mp same with ⟨more, rfl, ends⟩ | ⟨more, rfl, ends⟩
    · cases more with
      | nil => simp
      | cons c more => simp_all [Braceless]
    · cases more with
      | nil => simp
      | cons c more => simp_all [Braceless]
  · rintro rfl
    exact List.prefix_append _ _

section Tables

variable {inPattern : Char → Bool} (independent : ∀ e ∈ table, Independent inPattern e)

include independent

/-- Which entry a pattern belongs to does not depend on what follows it. -/
theorem entryAt_pattern {pattern : String} {body : List Char}
    (whole : pattern.toList = embrace body) (braceless : Braceless body) (rest : List Char) :
    entryAt table (pattern.toList ++ rest) = (table.lookup pattern).map (pattern, ·) := by
  induction table with
  | nil => rfl
  | cons e table ih =>
      obtain ⟨first, others⟩ := List.forall_mem_cons.mp independent
      obtain ⟨own, shape, inner⟩ := first.embraced
      have begins : e.1.toList <+: pattern.toList ++ rest ↔ e.1 = pattern := by
        rw [shape, whole, embrace_prefix_iff inner braceless, ← String.toList_inj, shape, whole,
          embrace_inj]
      rw [entryAt, List.find?_cons, List.lookup_cons]
      by_cases same : e.1 = pattern
      · subst same
        have here := List.isPrefixOf_iff_prefix.mpr (begins.mpr rfl)
        rw [here, beq_self_eq_true]
        rfl
      · have differ : (pattern == e.1) = false := by simpa using Ne.symm same
        have apart : e.1.toList.isPrefixOf (pattern.toList ++ rest) = false := by
          rw [← Bool.not_eq_true, List.isPrefixOf_iff_prefix, begins]
          exact same
        rw [differ, apart]
        exact ih others

/-- What has no opening brace is copied. -/
theorem passChars_append_of_notMem {front : List Char} (free : '\x7b' ∉ front)
    (rest : List Char) : passChars table 0 (front ++ rest) = front ++ passChars table 0 rest := by
  induction front with
  | nil => rfl
  | cons c front ih =>
      obtain ⟨differ, free⟩ := not_or.mp (List.mem_cons.not.mp free)
      have none : entryAt table (c :: (front ++ rest)) = none := by
        refine entryAt_eq_none.mpr fun e member begins => ?_
        obtain ⟨body, whole, -⟩ := (independent e member).embraced
        rw [whole, embrace, List.cons_prefix_cons] at begins
        exact differ begins.1
      rw [List.cons_append, passChars_of_entryAt_eq_none none, ih free, List.cons_append]

/-- A pattern that no entry is for is copied. -/
theorem passChars_of_lookup_eq_none {pattern : String} {body : List Char}
    (whole : pattern.toList = embrace body) (braceless : Braceless body)
    (unknown : table.lookup pattern = none) (rest : List Char) :
    passChars table 0 (pattern.toList ++ rest) = pattern.toList ++ passChars table 0 rest := by
  have outer := entryAt_pattern independent whole braceless rest
  rw [unknown, Option.map_none] at outer
  -- At the second brace no pattern begins either: what follows it is no brace.
  have inner : entryAt table ('\x7b' :: (body ++ ['\x7d', '\x7d'] ++ rest)) = none := by
    refine entryAt_eq_none.mpr fun e member begins => ?_
    obtain ⟨own, shape, -⟩ := (independent e member).embraced
    rw [shape, embrace, List.cons_prefix_cons] at begins
    cases body with
    | nil => simp at begins
    | cons c body => simp_all [Braceless]
  have free : '\x7b' ∉ body ++ ['\x7d', '\x7d'] := by simp [braceless.1]
  have copied := passChars_append_of_notMem independent free rest
  simp only [whole, embrace, List.cons_append] at outer inner copied ⊢
  rw [passChars_of_entryAt_eq_none outer, passChars_of_entryAt_eq_none inner, copied]

/-- A pattern becomes what its entry says, or stays where there is none. -/
theorem passChars_pattern {pattern : String} {body : List Char}
    (whole : pattern.toList = embrace body) (braceless : Braceless body) (rest : List Char) :
    passChars table 0 (pattern.toList ++ rest) =
      ((table.lookup pattern).getD pattern).toList ++ passChars table 0 rest := by
  cases known : table.lookup pattern with
  | none => exact passChars_of_lookup_eq_none independent whole braceless known rest
  | some replacement =>
      have found := entryAt_pattern independent whole braceless rest
      rw [known, Option.map_some] at found
      have given : pattern.toList ≠ [] := by
        rw [whole]
        exact List.cons_ne_nil _ _
      exact passChars_of_entryAt (e := (pattern, replacement)) given found

/-- A pass does not complete a pattern. -/
theorem prefix_of_prefix_passChars {cs w : List Char} (made : ∀ c ∈ w, inPattern c)
    (closed : ∀ c ∈ w.getLast?, c = '\x7d') (begins : w <+: passChars table 0 cs) : w <+: cs := by
  induction cs using pass_induction (fun e member => (independent e member).pattern_ne_nil)
    generalizing w with
  | nil => exact begins
  | found e member rest here _ =>
      rw [passChars_of_entryAt (independent e member).pattern_ne_nil here] at begins
      obtain ⟨foreign, inside, outside⟩ := (independent e member).foreign
      rcases List.prefix_or_prefix_of_prefix begins (List.prefix_append e.2.toList _) with
        within | across
      · -- The replacement has no closing brace to end with.
        cases last : w.getLast? with
        | none =>
            rw [List.getLast?_eq_none_iff.mp last]
            exact List.nil_prefix
        | some c =>
            obtain rfl := closed c last
            exact absurd (within.subset (List.mem_of_getLast? last))
              (independent e member).braceless.2
      · rw [made foreign (across.subset inside)] at outside
        cases outside
  | other c cs here ih =>
      rw [passChars_of_entryAt_eq_none here] at begins
      cases w with
      | nil => exact List.nil_prefix
      | cons d w =>
          obtain ⟨rfl, behind⟩ := List.cons_prefix_cons.mp begins
          refine List.cons_prefix_cons.mpr ⟨rfl, ih (fun c member => ?_) (fun c last => ?_) behind⟩
          · exact made c (List.mem_cons_of_mem _ member)
          · exact closed c (by simp [List.getLast?_cons, Option.mem_def.mp last])

/-- No pattern begins in front of two braces and ends behind them. -/
theorem passChars_append_embrace (before body after : List Char) :
    passChars table 0 (before ++ (embrace body ++ after)) =
      passChars table 0 before ++ passChars table 0 (embrace body ++ after) := by
  induction before using
    pass_induction (fun e member => (independent e member).pattern_ne_nil) with
  | nil => rfl
  | found e member rest here ih =>
      have some := (independent e member).pattern_ne_nil
      obtain ⟨own, whole, inner⟩ := (independent e member).embraced
      have again : entryAt table (e.1.toList ++ (rest ++ (embrace body ++ after))) = e := by
        rw [entryAt_pattern independent whole inner] at here ⊢
        exact here
      rw [List.append_assoc, passChars_of_entryAt some again, passChars_of_entryAt some here, ih,
        List.append_assoc]
  | other c cs here ih =>
      have again : entryAt table (c :: (cs ++ (embrace body ++ after))) = none := by
        refine entryAt_eq_none.mpr fun e member begins => ?_
        -- A pattern that goes over the end of the front has two braces behind its own first one.
        have nowhere := entryAt_eq_none.mp here e member
        obtain ⟨own, whole, inner⟩ := (independent e member).embraced
        rw [whole] at begins nowhere
        obtain ⟨tail, same⟩ := begins
        rw [← List.cons_append] at same
        rcases List.append_eq_append_iff.mp same with ⟨more, split, -⟩ | ⟨more, split, ends⟩
        · exact nowhere ⟨more, split.symm⟩
        · cases more with
          | nil => exact nowhere ⟨[], by simpa using split⟩
          | cons b more =>
              simp only [embrace, List.cons_append, List.cons.injEq] at split ends
              obtain ⟨rfl, ends⟩ := ends
              obtain ⟨-, split⟩ := split
              cases cs with
              | nil =>
                  obtain ⟨-, rfl⟩ := List.cons.inj split
                  cases own <;> simp_all [Braceless]
              | cons d cs =>
                  have inside : '\x7b' ∈ own ++ ['\x7d', '\x7d'] := by
                    rw [(List.cons.inj split).2]
                    simp
                  simp [inner.1] at inside
      rw [List.cons_append, passChars_of_entryAt_eq_none again, passChars_of_entryAt_eq_none here,
        ih, List.cons_append]

/-- What becomes of a pattern in a text depends on nothing around it. -/
theorem pass_around {pattern : String} {body : List Char} (whole : pattern.toList = embrace body)
    (braceless : Braceless body) (before after : String) :
    pass table (before ++ pattern ++ after) =
      pass table before ++ (table.lookup pattern).getD pattern ++ pass table after := by
  have here := passChars_pattern independent whole braceless after.toList
  rw [whole] at here
  rw [pass, pass, pass, String.toList_append, String.toList_append, whole, List.append_assoc,
    passChars_append_embrace independent, here, String.ofList_append, String.ofList_append,
    String.ofList_toList, String.append_assoc]

/-- A pass does not change whether a text ends in a character of some kind, unless patterns or
replacements do. -/
theorem getLast?_passChars {test : Char → Bool} (brace : test '\x7d' = false)
    (ends : ∀ e ∈ table, e.2.toList.getLast?.map test = some false) (cs : List Char) :
    (passChars table 0 cs).getLast?.map test = cs.getLast?.map test := by
  induction cs using
    pass_induction (fun e member => (independent e member).pattern_ne_nil) with
  | nil => rfl
  | found e member rest here ih =>
      rw [passChars_of_entryAt (independent e member).pattern_ne_nil here, List.getLast?_append,
        List.getLast?_append, (independent e member).getLast?_pattern, Option.map_or, Option.map_or,
        ih, ends e member, Option.map_some, brace]
  | other c cs here ih =>
      rw [passChars_of_entryAt_eq_none here]
      change ([c] ++ passChars table 0 cs).getLast?.map test = ([c] ++ cs).getLast?.map test
      rw [List.getLast?_append, List.getLast?_append, Option.map_or, Option.map_or, ih]

end Tables

section TwoTables

variable {inPattern : Char → Bool} {later : List (String × String)}
  (independent : ∀ e ∈ table, Independent inPattern e)
  (independentLater : ∀ e ∈ later, Independent inPattern e)

include independent independentLater

/-- Two passes do what one with both tables does: the second finds nothing but what was there. -/
theorem passChars_passChars (cs : List Char) :
    passChars later 0 (passChars table 0 cs) = passChars (table ++ later) 0 cs := by
  have both : ∀ e ∈ table ++ later, Independent inPattern e := by
    simpa [or_imp, forall_and] using And.intro independent independentLater
  induction cs using pass_induction (fun e member => (both e member).pattern_ne_nil) with
  | nil => rfl
  | found e member rest here ih =>
      have some := (both e member).pattern_ne_nil
      rw [passChars_of_entryAt some here]
      rw [entryAt, List.find?_append] at here
      cases first : entryAt table (e.1.toList ++ rest) with
      | some early =>
          rw [← entryAt, first, Option.some_or, Option.some.injEq] at here
          obtain rfl := here
          rw [passChars_of_entryAt some first,
            passChars_append_of_notMem independentLater (both early member).braceless.1, ih]
      | none =>
          rw [← entryAt, ← entryAt, first, Option.none_or] at here
          obtain ⟨body, whole, inner⟩ := (both e member).embraced
          rw [entryAt_pattern independent whole inner, Option.map_eq_none_iff] at first
          have again : entryAt later (e.1.toList ++ passChars table 0 rest) = e := by
            rw [entryAt_pattern independentLater whole inner] at here ⊢
            exact here
          rw [passChars_of_lookup_eq_none independent whole inner first,
            passChars_of_entryAt some again, ih]
  | other c cs here ih =>
      have neither := entryAt_eq_none.mp here
      have first : entryAt table (c :: cs) = none :=
        entryAt_eq_none.mpr fun e member => neither e (List.mem_append_left _ member)
      have second : entryAt later (c :: passChars table 0 cs) = none := by
        refine entryAt_eq_none.mpr fun e member begins => ?_
        refine neither e (List.mem_append_right _ member) ?_
        rw [← passChars_of_entryAt_eq_none first] at begins
        refine prefix_of_prefix_passChars independent (independentLater e member).made
          (fun c last => ?_) begins
        rw [(independentLater e member).getLast?_pattern] at last
        exact (Option.some.inj last).symm
      rw [passChars_of_entryAt_eq_none first, passChars_of_entryAt_eq_none second, ih,
        passChars_of_entryAt_eq_none here]

theorem pass_pass (text : String) : pass later (pass table text) = pass (table ++ later) text := by
  rw [pass, pass, pass, String.toList_ofList, passChars_passChars independent independentLater]

end TwoTables

theorem pass_nil (text : String) : pass [] text = text := by
  have copied : ∀ cs, passChars [] 0 cs = cs := by
    intro cs
    induction cs with
    | nil => rfl
    | cons c cs ih => rw [passChars_of_entryAt_eq_none rfl, ih]
  rw [pass, copied, String.ofList_toList]

/-- A table acts by the entries that it has for texts. -/
theorem pass_congr {other : List (String × String)} (same : entryAt other = entryAt table)
    (text : String) : pass other text = pass table text := by
  have chars : ∀ skip cs, passChars other skip cs = passChars table skip cs := by
    intro skip cs
    induction cs generalizing skip with
    | nil => rw [passChars, passChars]
    | cons c cs ih =>
        cases skip with
        | succ skip => exact ih skip
        | zero => simp only [passChars, same, ih]
  rw [pass, pass, chars]

section Order

variable {inPattern : Char → Bool} (independent : ∀ e ∈ table, Independent inPattern e)

include independent

/-- The replacements one after the other do what one pass does. -/
theorem foldl_replaceAll (text : String) :
    table.foldl (fun text e => replaceAll e.1 e.2 text) text = pass table text := by
  induction table using List.reverseRecOn with
  | nil => exact (pass_nil text).symm
  | append_singleton table e ih =>
      have early : ∀ e ∈ table, Independent inPattern e := fun e member =>
        independent e (List.mem_append_left _ member)
      have last : ∀ e' ∈ [e], Independent inPattern e' := fun e' member =>
        independent e' (List.mem_append_right _ member)
      rw [List.foldl_concat, ih early, replaceAll_eq, pass_pass early last]

/-- With different patterns there is at most one that a text begins with. -/
theorem entryAt_eq_some_iff (distinct : (table.map (·.1)).Nodup) {cs : List Char}
    {e : String × String} : entryAt table cs = some e ↔ e ∈ table ∧ e.1.toList <+: cs := by
  refine ⟨fun found => ⟨List.mem_of_find?_eq_some found, prefix_of_entryAt found⟩, ?_⟩
  rintro ⟨member, begins⟩
  cases search : entryAt table cs with
  | none => exact absurd begins (entryAt_eq_none.mp search e member)
  | some other =>
      have known := List.mem_of_find?_eq_some search
      obtain ⟨body, whole, inner⟩ := (independent e member).embraced
      obtain ⟨own, shape, braceless⟩ := (independent other known).embraced
      obtain ⟨rest, rfl⟩ := begins
      have again := prefix_of_entryAt search
      rw [whole, shape, embrace_prefix_iff braceless inner] at again
      have patterns : other.1 = e.1 := String.toList_inj.mp (by rw [shape, whole, again])
      rw [List.inj_on_of_nodup_map distinct known member patterns]

/-- The order of a table with different patterns does not matter. -/
theorem pass_perm {order : List (String × String)} (same : order.Perm table)
    (distinct : (table.map (·.1)).Nodup) (text : String) : pass order text = pass table text := by
  have entry : entryAt order = entryAt table := by
    funext cs
    have independentOrder : ∀ e ∈ order, Independent inPattern e := fun e member =>
      independent e (same.mem_iff.mp member)
    have distinctOrder : (order.map (·.1)).Nodup := (same.map _).nodup_iff.mpr distinct
    ext e
    rw [entryAt_eq_some_iff independent distinct,
      entryAt_eq_some_iff independentOrder distinctOrder, same.mem_iff]
  exact pass_congr entry text

/-- After a pass there is nothing left to replace. -/
theorem pass_idempotent (text : String) : pass table (pass table text) = pass table text := by
  have same : entryAt (table ++ table) = entryAt table := by
    funext cs
    rw [entryAt, List.find?_append, Option.or_self, entryAt]
  rw [pass_pass independent independent, pass_congr same]

end Order

end Etl.Text
