import Etl.Files.Memory
import Etl.Proofs.Results
import Etl.Proofs.SortedMap
import Mathlib.Data.List.DropRight

/-!
Overwriting a file that is there. The tree keeps its layout, so that every path leads where it led
before, and the file reads as the text that was written.
-/

namespace Etl

open Results

namespace Tree

variable {t t' : Tree} {path : String} {place : Place}

/-- The same directories and files, whatever the files hold. -/
structure SameLayout (t t' : Tree) : Prop where
  isDirectory : ∀ place, t'.isDirectory place = t.isDirectory place
  isFile : ∀ place, (t'.file? place).isSome = (t.file? place).isSome

theorem SameLayout.locate_eq (same : SameLayout t t') (path : String) :
    t'.locate path = t.locate path := by
  have enter : ∀ place, t'.enter place = t.enter place := fun place => by
    rw [Tree.enter, Tree.enter, same.isDirectory, same.isFile]
  have step : t'.step = t.step := by
    funext place part
    rw [Tree.step, Tree.step, enter]
  simp only [locate, follow, step, same.isDirectory, same.isFile]

/-- A text in the place of another changes no layout. -/
theorem sameLayout_insert {names : List String} (present : (t.file? ⟨.root, names⟩).isSome)
    (text : String) : SameLayout t (t.insert names text) where
  isDirectory place := by
    have keys : (t.insert names text).files.keys = t.files.keys :=
      SortedMap.keys_insert_of_contains present text
    rcases place with ⟨_ | _ | _, _ | _⟩ <;> simp only [isDirectory, keys]
  isFile place := by
    rcases place with ⟨_ | _ | _, others⟩
    · show (t.files.insert _ text).contains _ = t.files.contains _
      rw [SortedMap.contains_insert]
      by_cases here : "/".intercalate others = "/".intercalate names
      · rw [here, decide_eq_true rfl, Bool.true_or]
        exact present.symm
      · rw [decide_eq_false here, Bool.false_or]
    · rfl
    · rfl

theorem follow_append (path : String) (parts more : List String) :
    t.follow path (parts ++ more) = t.follow path parts >>= fun place => more.foldlM t.step place :=
  List.foldlM_append

/-- One only goes on from a directory. -/
theorem isDirectory_of_step {next : Place} {part : String} (went : t.step place part = .ok next) :
    t.isDirectory place := by
  obtain ⟨_, entered, _⟩ := bind_eq_ok.mp went
  unfold enter at entered
  split at entered
  next inside => exact inside
  next => split at entered <;> cases entered

theorem follow_of_locate (found : t.locate path = .ok place) :
    t.follow path (Text.split '/' path) = .ok place := by
  obtain ⟨_, _, found⟩ := bind_eq_ok.mp found
  obtain ⟨reached, followed, found⟩ := bind_eq_ok.mp found
  split at found
  · exact Except.ok.inj found ▸ followed
  · cases found

theorem follow_of_destination (admitted : t.destination path = .ok place) :
    t.follow path (Text.dropEndWhile (· = "") (Text.split '/' path)) = .ok place ∧
      t.isDirectory place = false := by
  unfold destination at admitted
  obtain ⟨_, _, admitted⟩ := bind_eq_ok.mp admitted
  obtain ⟨directory, above, admitted⟩ := bind_eq_ok.mp admitted
  obtain ⟨_, _, admitted⟩ := bind_eq_ok.mp admitted
  split at admitted
  · cases admitted
  · cases admitted
  · cases admitted
  next name _ _ last =>
    split at admitted
    · cases admitted
    obtain ⟨reached, stepped, admitted⟩ := bind_eq_ok.mp admitted
    split at admitted
    · cases admitted
    next outside =>
      cases admitted
      refine ⟨?_, Bool.eq_false_iff.mpr outside⟩
      rw [← List.dropLast_append_getLast? name last, follow_append]
      exact bind_eq_ok.mpr ⟨directory, above, bind_eq_ok.mpr ⟨place, stepped, rfl⟩⟩

/-- What is found at a path is where a text goes that is written there. Only in what follows the
last name of the path do the two ways differ, and one cannot go on from a file. -/
theorem eq_of_locate_of_destination {target : Place} (found : t.locate path = .ok place)
    (admitted : t.destination path = .ok target) : place = target := by
  obtain ⟨named, outside⟩ := follow_of_destination admitted
  have whole := follow_of_locate found
  have parts : Text.dropEndWhile (· = "") (Text.split '/' path) ++
      (Text.split '/' path).rtakeWhile (· = "") = Text.split '/' path :=
    List.rdropWhile_append_rtakeWhile
  rw [← parts, follow_append] at whole
  obtain ⟨reached, same, rest⟩ := bind_eq_ok.mp whole
  cases Except.ok.inj (same.symm.trans named)
  cases more : (Text.split '/' path).rtakeWhile (· = "") with
  | nil =>
      rw [more] at rest
      exact (Except.ok.inj rest).symm
  | cons part parts =>
      rw [more, List.foldlM_cons] at rest
      obtain ⟨_, went, _⟩ := bind_eq_ok.mp rest
      cases outside.symm.trans (isDirectory_of_step went)

theorem read_eq_ok {text : String} :
    t.read path = .ok text ↔ ∃ place, t.locate path = .ok place ∧ t.file? place = some text := by
  rw [read, bind_eq_ok]
  refine exists_congr fun place => and_congr_right fun _ => ?_
  cases t.file? place <;> simp [pure, Except.pure]

end Tree

/-- A file that was written over is read as what was written. The empty text is left out, since
devices are read as empty and keep nothing. -/
theorem Memory.read_of_write {memory written : Memory} {path old text : String}
    (held : memory.files.read path = .ok old) (kept : old ≠ "")
    (done : memory.write path text = .ok written) : written.files.read path = .ok text := by
  obtain ⟨place, found, content⟩ := Tree.read_eq_ok.mp held
  obtain ⟨target, admitted, done⟩ := bind_eq_ok.mp done
  cases Tree.eq_of_locate_of_destination found admitted
  rcases place with ⟨_ | _ | _, names⟩
  · cases done
    have layout := Tree.sameLayout_insert (Option.isSome_of_eq_some content) text
    refine Tree.read_eq_ok.mpr ⟨_, (layout.locate_eq path).trans found, ?_⟩
    show (memory.files.files.insert _ text).get? _ = some text
    rw [SortedMap.get?_insert, if_pos rfl]
  · cases content
  · obtain ⟨_, _, empty⟩ := Option.map_eq_some_iff.mp content
    exact absurd empty.symm kept

end Etl
