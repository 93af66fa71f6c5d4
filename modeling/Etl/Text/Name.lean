/-!
Fixed names. Several types are closed lists of values, each with one or more names; a text that is
none of the names is refused with the kind of name that was wanted.
-/

namespace Etl

/-- A text that names no value of some kind. -/
structure UnknownName where
  kind : String
  text : String
deriving DecidableEq

namespace UnknownName

def message (u : UnknownName) : String := "unknown " ++ u.kind ++ " '" ++ u.text ++ "'"

end UnknownName

/-- Looks a text up among known names. -/
def ofName {α : Type} (kind : String) (known : List (String × α)) (text : String) :
    Except UnknownName α :=
  match known.lookup text with
  | some a => .ok a
  | none => .error ⟨kind, text⟩

end Etl
