import Etl.Files.Host
import Etl.Files.Tree

/-!
A host held in memory: its files, its variables and everything printed so far.
-/

namespace Etl

structure Memory where
  files : Tree
  env : List (String × String)
  printed : String
  warned : String

namespace Memory

/-- A host with files and variables on which nothing was printed yet. -/
def start (files : Tree) (env : List (String × String)) : Memory :=
  ⟨files, env, "", ""⟩

variable (memory : Memory)

def print (text : String) : Memory := { memory with printed := memory.printed ++ text }

def warn (text : String) : Memory := { memory with warned := memory.warned ++ text }

/-- Writes a text to a place. What goes to a file outside the tree is not kept. -/
def put (place : Place) (text : String) : Except FileFault Memory :=
  match place with
  | ⟨.root, names⟩ => .ok { memory with files := memory.files.insert names text }
  | ⟨.above, _⟩ => .ok memory
  | ⟨.top, names⟩ =>
    match Device.at? names with
    | some .full => .error .noSpace
    | some .results => .ok (memory.print text)
    | some .messages => .ok (memory.warn text)
    | some .null | none => .ok memory

def write (path text : String) : Except FileFault Memory := do
  memory.put (← memory.files.destination path) text

instance : Host (StateM Memory) where
  read path := return (← get).files.read path
  write path text := do
    match (← get).write path text with
    | .ok memory =>
      set memory
      return .ok ()
    | .error fault => return .error fault
  exists? path := return (← get).files.contains path
  env? name := return (← get).env.lookup name
  print text := modify (·.print text)
  warn text := modify (·.warn text)

end Memory

end Etl
