import Etl.Files.Device
import Etl.Files.Fault
import Etl.Files.Path
import Etl.SortedMap

/-!
A tree of files in memory, as one sees it from its root. Files are kept under their names from the
root down, joined by slashes; a directory is there as soon as a file lies in it. Outside the tree are
the directories that hold it, of which nothing else is known, and the directories and devices of the
system, where absolute paths begin. A name has at most 255 bytes and a path fewer than 4096.
-/

namespace Etl

structure Tree where
  files : SortedMap String String
deriving DecidableEq

/-- Where the names of a place begin: at the root of the tree, in a directory that holds the tree, or
at the top of the system. -/
inductive Anchor where
  | root
  | above
  | top
deriving DecidableEq

/-- Where a path leads, whether there is anything or not. -/
structure Place where
  anchor : Anchor
  names : List String
deriving DecidableEq

namespace Place

/-- The directories every system has. -/
def systemDirectories : List String := ["bin", "dev", "etc", "lib", "tmp", "usr", "var"]

/-- The directory a place lies in. The top of the system lies in itself. -/
def parent : Place → Place
  | ⟨.root, []⟩ => ⟨.above, []⟩
  | ⟨anchor, names⟩ => ⟨anchor, names.dropLast⟩

def child (place : Place) (name : String) : Place := { place with names := place.names ++ [name] }

end Place

namespace Tree

def empty : Tree := ⟨SortedMap.empty⟩

variable (t : Tree)

/-- The content of the file at a place. -/
def file? : Place → Option String
  | ⟨.root, names⟩ => t.files.get? ("/".intercalate names)
  | ⟨.above, _⟩ => none
  | ⟨.top, names⟩ => (Device.at? names).map fun _ => ""

def isDirectory : Place → Bool
  | ⟨_, []⟩ => true
  | ⟨.root, names⟩ => t.files.keys.any (·.startsWith ("/".intercalate names ++ "/"))
  | ⟨.above, _⟩ => false
  | ⟨.top, names⟩ => Place.systemDirectories.any fun name => names = [name]

/-- Checks that one can go on from a place. -/
def enter (place : Place) : Except FileFault Unit :=
  if t.isDirectory place then .ok ()
  else if (t.file? place).isSome then .error .notDirectory
  else .error .notFound

/-- Goes from a directory to one of its parts. -/
def step (place : Place) (part : String) : Except FileFault Place := do
  t.enter place
  if 255 < part.utf8ByteSize then .error .nameTooLong
  else if Path.isIdle part then return place
  else if part = ".." then return place.parent
  else return place.child part

/-- Refuses what is no path at all. -/
def checkPath (path : String) : Except FileFault Unit :=
  if path.toList.contains '\x00' then .error .nulInName
  else if path = "" then .error .notFound
  else if 4096 ≤ path.utf8ByteSize then .error .nameTooLong
  else .ok ()

/-- Follows the parts of a path from where it begins. -/
def follow (path : String) (parts : List String) : Except FileFault Place :=
  parts.foldlM t.step ⟨if Path.isAbsolute path then .top else .root, []⟩

/-- Finds what is at a path. -/
def locate (path : String) : Except FileFault Place := do
  checkPath path
  let place ← t.follow path (Text.split '/' path)
  if t.isDirectory place || (t.file? place).isSome then return place else .error .notFound

def contains (path : String) : Bool := (t.locate path).toBool

def read (path : String) : Except FileFault String := do
  match t.file? (← t.locate path) with
  | some text => return text
  | none => .error .isDirectory

/-- Finds where a text goes that is written to a path. It has to be in a directory that is there. A
path that ends in a slash leads to a directory, even if there is none. -/
def destination (path : String) : Except FileFault Place := do
  checkPath path
  let parts := Text.dropEndWhile (· = "") (Text.split '/' path)
  let directory ← t.follow path parts.dropLast
  t.enter directory
  match parts.getLast? with
  | none | some "." | some ".." => .error .isDirectory
  | some name =>
    if path.endsWith "/" then .error .isDirectory
    let place ← t.step directory name
    if t.isDirectory place then .error .isDirectory else return place

/-- Makes a text the content of the file with the given names from the root down. -/
def insert (names : List String) (text : String) : Tree :=
  ⟨t.files.insert ("/".intercalate names) text⟩

end Tree

end Etl
