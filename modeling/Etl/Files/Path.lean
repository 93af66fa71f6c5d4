import Etl.Text.Blank

/-!
Paths of files as texts. A path is absolute when it begins with a slash; several slashes count as
one, and so do single dots between them.
-/

namespace Etl.Path

def isAbsolute (path : String) : Bool := path.startsWith "/"

/-- Whether a part of a path leads nowhere else. -/
def isIdle (part : String) : Bool := part = "" || part = "."

/-- Leaves out the idle parts at the end. -/
def trimEnd (parts : List String) : List String := Text.dropEndWhile isIdle parts

/-- The directory a path lies in, which is empty for a path of one name. -/
def parent? (path : String) : Option String :=
  match Text.split '/' path with
  | [] => none
  | first :: rest =>
    match trimEnd rest with
    | [] => if first = "" then none else some ""
    | names =>
      let above := "/".intercalate (first :: trimEnd names.dropLast)
      some (if above = "" then "/" else above)

/-- The name of the file a path leads to. -/
def name? (path : String) : Option String :=
  match trimEnd (Text.split '/' path) with
  | [] => none
  | parts => parts.getLast?.filter (· ≠ "..")

/-- What follows the last dot of the name, unless the dot is its first character. -/
def extension? (path : String) : Option String := do
  match Text.split '.' (← name? path) with
  | "" :: [_] | [_] | [] => none
  | parts => parts.getLast?

/-- A path as seen from a directory. -/
def join (directory path : String) : String :=
  if isAbsolute path || directory = "" then path
  else if directory.endsWith "/" then directory ++ path
  else directory ++ "/" ++ path

end Etl.Path
