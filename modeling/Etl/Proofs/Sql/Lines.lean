import Mathlib.Data.List.Forall2
import Etl.Sql.Script

/-!
Scripts line by line. A comment is one line whatever its text holds, and a statement is made of whole
lines. So lines of one part never run into another, and two scripts can be compared part by part.
-/

namespace Etl.Sql

/-- The lines of a text, cut at each break. -/
def lines (breaks : List Char) (text : String) : List (List Char) :=
  text.toList.splitOnP breaks.contains

def isComment (line : List Char) : Bool := "-- ".toList.isPrefixOf line

/-- The lines that are no comments. -/
def executable (breaks : List Char) (text : String) : List (List Char) :=
  (lines breaks text).filter fun line => !isComment line

/-- Equal lines, or two comments. -/
def SameLine (x y : List Char) : Prop := x = y ∨ (isComment x ∧ isComment y)

theorem SameLine.isComment_eq {x y : List Char} (same : SameLine x y) :
    isComment x = isComment y := by
  rcases same with rfl | ⟨left, right⟩
  · rfl
  · rw [left, right]

theorem filter_eq_of_sameLine {xs ys : List (List Char)} (same : List.Forall₂ SameLine xs ys) :
    xs.filter (fun line => !isComment line) = ys.filter fun line => !isComment line := by
  induction same with
  | nil => rfl
  | cons first _ ih =>
      rw [List.filter_cons, List.filter_cons, ih, first.isComment_eq]
      rcases first with rfl | ⟨_, comment⟩
      · rfl
      · simp [comment]

/-- The text is made of whole lines, which are these. -/
def Whole (breaks : List Char) (text : String) (those : List (List Char)) : Prop :=
  ∀ rest, lines breaks (text ++ rest) = those ++ lines breaks rest

/-- Both texts are made of whole lines, equally many and pairwise the same. -/
def SameButComments (breaks : List Char) (a b : String) : Prop :=
  ∃ xs ys, Whole breaks a xs ∧ Whole breaks b ys ∧ List.Forall₂ SameLine xs ys

variable {breaks : List Char}

namespace Whole

variable {a b : String} {xs ys : List (List Char)}

theorem empty : Whole breaks "" [] := fun rest => by simp

theorem append (left : Whole breaks a xs) (right : Whole breaks b ys) :
    Whole breaks (a ++ b) (xs ++ ys) := by
  intro rest
  rw [String.append_assoc, left, right, List.append_assoc]

theorem lines_eq (whole : Whole breaks a xs) : lines breaks a = xs ++ [[]] := by
  have all := whole ""
  rw [String.append_empty] at all
  exact all

theorem join {texts : List String} {parts : List (List (List Char))}
    (each : List.Forall₂ (Whole breaks) texts parts) :
    Whole breaks (String.join texts) parts.flatten := by
  induction each with
  | nil => exact empty
  | cons first _ ih =>
      rw [String.join_cons, List.flatten_cons]
      exact first.append ih

/-- A text that ends in a break is made of whole lines. -/
theorem of_break (newline : '\n' ∈ breaks) (body : String) :
    Whole breaks (body ++ "\n") (lines breaks body) := by
  intro rest
  have cuts : breaks.contains '\n' = true := List.contains_iff_mem.mpr newline
  have cut := List.splitOnP_append_cons body.toList rest.toList cuts
  simpa [lines] using cut

end Whole

namespace SameButComments

variable {a b a' b' : String}

theorem empty : SameButComments breaks "" "" := ⟨[], [], .empty, .empty, .nil⟩

theorem append (first : SameButComments breaks a b) (second : SameButComments breaks a' b') :
    SameButComments breaks (a ++ a') (b ++ b') := by
  obtain ⟨xs, ys, left, right, same⟩ := first
  obtain ⟨xs', ys', left', right', same'⟩ := second
  exact ⟨xs ++ xs', ys ++ ys', left.append left', right.append right', List.rel_append same same'⟩

theorem join {as bs : List String} (each : List.Forall₂ (SameButComments breaks) as bs) :
    SameButComments breaks (String.join as) (String.join bs) := by
  induction each with
  | nil => exact empty
  | cons first _ ih =>
      rw [String.join_cons, String.join_cons]
      exact first.append ih

theorem of_break (newline : '\n' ∈ breaks) (body : String) :
    SameButComments breaks (body ++ "\n") (body ++ "\n") :=
  ⟨_, _, .of_break newline body, .of_break newline body, List.forall₂_same.mpr fun _ _ => .inl rfl⟩

theorem lines_forall₂ (same : SameButComments breaks a b) :
    List.Forall₂ SameLine (lines breaks a) (lines breaks b) := by
  obtain ⟨xs, ys, left, right, same⟩ := same
  rw [left.lines_eq, right.lines_eq]
  exact List.rel_append same (.cons (.inl rfl) .nil)

theorem executable_eq (same : SameButComments breaks a b) :
    executable breaks a = executable breaks b :=
  filter_eq_of_sameLine same.lines_forall₂

end SameButComments

/-- The characters of a comment before its final break. -/
def commentLine (text : String) : List Char :=
  "-- ".toList ++ text.toList.map fun c => if c = '\r' ∨ c = '\n' then ' ' else c

theorem isComment_commentLine (text : String) : isComment (commentLine text) := by
  simp [isComment, commentLine]

theorem comment_eq (text : String) : comment text = String.ofList (commentLine text) ++ "\n" := by
  rw [commentLine, String.ofList_append, String.ofList_toList, comment]

/-- Whatever the text of a comment holds, the comment is one line. -/
theorem whole_comment (newline : '\n' ∈ breaks) (only : ∀ c ∈ breaks, c = '\r' ∨ c = '\n')
    (text : String) : Whole breaks (comment text) [commentLine text] := by
  have unbroken : ∀ c ∈ commentLine text, breaks.contains c = false := by
    intro c member
    rw [Bool.eq_false_iff, Ne, List.contains_iff_mem]
    intro cuts
    rcases List.mem_append.mp member with mark | content
    · rcases only c cuts with rfl | rfl <;> simp at mark
    · obtain ⟨d, _, made⟩ := List.mem_map.mp content
      split at made
      next =>
        subst made
        exact absurd (only ' ' cuts) (by decide)
      next other =>
        subst made
        exact other (only d cuts)
  have one := Whole.of_break newline (String.ofList (commentLine text))
  rw [lines, String.toList_ofList, List.splitOnP_eq_singleton unbroken, ← comment_eq] at one
  exact one

theorem whole_comments (newline : '\n' ∈ breaks) (only : ∀ c ∈ breaks, c = '\r' ∨ c = '\n')
    (texts : List String) :
    Whole breaks (String.join (texts.map comment)) (texts.map commentLine) := by
  induction texts with
  | nil => exact .empty
  | cons text rest ih =>
      rw [List.map_cons, String.join_cons]
      exact (whole_comment newline only text).append ih

/-- Every statement ends its last line. -/
theorem Statement.exists_render_eq (s : Statement) : ∃ body, s.render = body ++ "\n" := by
  have ended (front last : String) : ∃ body, front ++ (last ++ "\n") = body ++ "\n" :=
    ⟨front ++ last, String.append_assoc.symm⟩
  cases s with
  | view name query => exact ended _ ";"
  | write w =>
      show ∃ body, w.render = body ++ "\n"
      unfold Write.render
      split
      next => exact ended _ ";"
      next => exact ended _ ";"
      next => exact ended _ "\nWHEN NOT MATCHED THEN INSERT *;"
      next => exact ended _ ";"

end Etl.Sql
