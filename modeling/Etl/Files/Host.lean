import Etl.Files.Fault

/-!
What a command asks of the system it runs on: files, variables, and the two streams it prints to.
Commands are written for any host, so that they run on a real system and in memory alike.
-/

namespace Etl

class Host (m : Type → Type) where
  /-- The text of a file. -/
  read : String → m (Except FileFault String)
  /-- Makes a text the whole content of a file. -/
  write : String → String → m (Except FileFault Unit)
  /-- Whether there is a file or a directory at a path. -/
  exists? : String → m Bool
  /-- The value of a variable, if it is set. -/
  env? : String → m (Option String)
  /-- Prints a result. -/
  print : String → m Unit
  /-- Prints a message beside the results. -/
  warn : String → m Unit

end Etl
