import Etl.Error

/-!
Failures of a command: what went wrong for the user, and the causes behind it.
-/

namespace Etl.CommandLine

structure Failure where
  what : String
  causes : List String
deriving DecidableEq

namespace Failure

/-- A failure without a cause. -/
def plain (what : String) : Failure := ⟨what, []⟩

/-- The texts of an error: its message and the texts of what it was made from. -/
def chain : Error → List String
  | .json problem => [(Error.json problem).message, problem.message]
  | .file path fault => [(Error.file path fault).message, fault.message]
  | .yaml => [Error.yaml.message, Error.yaml.detail]
  | e => [e.message]

/-- An error as a failure of its own. -/
def ofError (e : Error) : Failure := ⟨e.message, (chain e).drop 1⟩

/-- A failure that an error caused. -/
def because (what : String) (e : Error) : Failure := ⟨what, chain e⟩

/-- A failure that a file caused. -/
def becauseFile (what : String) (fault : FileFault) : Failure := ⟨what, [fault.message]⟩

/-- A text with something before its first line and blanks before all others. -/
def indent (first : String) (text : String) : String :=
  let margin := String.ofList (List.replicate first.length ' ')
  first ++ ("\n" ++ margin).intercalate (text.splitOn "\n")

/-- The message for the user. Several causes are numbered. -/
def message (f : Failure) : String :=
  let causes := match f.causes with
    | [cause] => [indent "    " cause]
    | causes => causes.mapIdx fun i cause =>
      let number := toString i
      indent (String.ofList (List.replicate (5 - number.length) ' ') ++ number ++ ": ") cause
  "Error: " ++ f.what ++
    (if causes.isEmpty then "" else "\n\nCaused by:\n" ++ "\n".intercalate causes) ++ "\n"

end Failure

end Etl.CommandLine
