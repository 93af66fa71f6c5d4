/-!
Why a file could not be read or written.
-/

namespace Etl

inductive FileFault where
  | notFound
  | isDirectory
  | notDirectory
  | notText
  | nameTooLong
  | noSpace
  /-- A path with a character of number zero in it. -/
  | nulInName
  /-- A fault outside this list, with the text the system gives. -/
  | other (text : String)
deriving DecidableEq

namespace FileFault

/-- The system's text. -/
def message : FileFault → String
  | notFound => "No such file or directory (os error 2)"
  | isDirectory => "Is a directory (os error 21)"
  | notDirectory => "Not a directory (os error 20)"
  | notText => "stream did not contain valid UTF-8"
  | nameTooLong => "File name too long (os error 36)"
  | noSpace => "No space left on device (os error 28)"
  | nulInName => "file name contained an unexpected NUL byte"
  | other text => text

end FileFault

end Etl
