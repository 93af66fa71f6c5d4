import Etl.CommandLine.Run

/-!
The program on a real system.
-/

namespace Etl.Terminal

/-- The fault a system reports. -/
def faultOf : IO.Error → FileFault
  | .noFileOrDirectory .. => .notFound
  | .inappropriateType _ code details => ofCode code details
  | .invalidArgument _ code details => ofCode code details
  | .permissionDenied _ code details => ofCode code details
  | .resourceExhausted _ code details => ofCode code details
  | .noSuchThing _ code details => ofCode code details
  | .otherError code details => ofCode code details
  | e => .other (toString e)
where
  ofCode (code : UInt32) (details : String) : FileFault :=
    if code = 21 then .isDirectory
    else if code = 20 then .notDirectory
    else if code = 28 then .noSpace
    else if code = 36 then .nameTooLong
    else .other (details ++ " (os error " ++ toString code ++ ")")

instance : Host IO where
  read path := do
    try
      let file ← IO.FS.Handle.mk path .read
      match String.fromUTF8? (← file.readBinToEnd) with
      | some text => return .ok text
      | none => return .error .notText
    catch e => return .error (faultOf e)
  write path text := do
    try
      let file ← IO.FS.Handle.mk path .write
      file.putStr text
      file.flush
      return .ok ()
    catch e => return .error (faultOf e)
  exists? path := do
    try
      let _ ← IO.FS.Handle.mk path .read
      return true
    catch
      | .permissionDenied .. => return true
      | _ => return false
  env? name := IO.getEnv name
  print text := do
    let out ← IO.getStdout
    out.putStr text
  warn text := do
    let out ← IO.getStderr
    out.putStr text

end Etl.Terminal

def main (arguments : List String) : IO UInt32 := Etl.CommandLine.run arguments
