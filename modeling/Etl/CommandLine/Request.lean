import Etl.Catalog.Category
import Etl.CommandLine.Switch
import Etl.Compiler
import Etl.Logging

/-!
Requests: what a command line asks for. A switch may be given once, except the one that makes
messages more verbose; the configuration may be named before and after the command, and then the
second name counts.
-/

namespace Etl.CommandLine

/-- The commands and what they work on. -/
inductive Command where
  | validate (file : String)
  | compile (file : String) (kind : ArtifactKind) (output : Option String)
  | format (file : String) (check : Bool)
  | types (category : Option Category)
deriving DecidableEq

structure Request where
  /-- How often more messages were asked for. -/
  verbosity : Nat
  /-- The configuration file. -/
  config : Option String
  command : Command
deriving DecidableEq

/-- Why arguments are no request. -/
inductive Stop where
  /-- The arguments are not understood. -/
  | misuse
  | help
  | version
deriving DecidableEq

/-- What the words of a command line have given so far. -/
structure Given where
  verbosity : Nat
  config : Option String
  file : Option String
  kind : Option ArtifactKind
  output : Option String
  check : Bool
  category : Option Category

namespace Given

def nothing : Given := ⟨0, none, none, none, none, false, none⟩

/-- Keeps a value that may be given only once. -/
def once {α : Type} (given : Option α) (value : Option α) : Except Stop (Option α) :=
  match given, value with
  | none, some a => .ok (some a)
  | _, _ => .error .misuse

/-- A path, which may not be empty. -/
def path (text : String) : Option String := if text = "" then none else some text

/-- Takes one more word into account. -/
def take (g : Given) : Word → Except Stop Given
  | .flag .verbose => .ok { g with verbosity := g.verbosity + 1 }
  | .flag .check => if g.check then .error .misuse else .ok { g with check := true }
  | .flag .help => .error .help
  | .flag .version => .error .version
  | .value .config text => return { g with config := ← once g.config (path text) }
  | .value .output text => return { g with output := ← once g.output (path text) }
  | .value .target text =>
    return { g with kind := ← once g.kind (ArtifactKind.parse text).toOption }
  | .value .category text =>
    return { g with category := ← once g.category (Category.parse text).toOption }
  | .plain text => return { g with file := ← once g.file (path text) }
  | _ => .error .misuse

/-- The file, which has to be given. -/
def requireFile (g : Given) : Except Stop String :=
  match g.file with
  | some file => .ok file
  | none => .error .misuse

/-- Takes the words of a command into account, which may work on a file or not. -/
def ofArguments (switches : List Switch) (onFile : Bool) (arguments : List String) :
    Except Stop Given :=
  (words switches false arguments).foldlM (fun g word =>
    match word with
    | .plain _ => if onFile then g.take word else .error .misuse
    | word => g.take word) nothing

end Given

namespace Request

/-- The settings for log messages, given the variables of the system. -/
def logging (r : Request) (value? : String → Option String) (terminal : Bool) : Logging :=
  .ofVariables value? (Logging.filterFor r.verbosity) terminal

/-- The names of the commands, with the one that explains the others. -/
def commandNames : List String := ["validate", "compile", "fmt", "types", "help"]

/-- What to do where help is asked for, perhaps on one command. -/
def helpOn : List String → Stop
  | [] => .help
  | [name] => if commandNames.contains name then .help else .misuse
  | _ => .misuse

/-- Reads the arguments of a command. -/
def ofCommand (name : String) (arguments : List String) :
    Except Stop (Option String × Command) := do
  match name with
  | "validate" =>
    let g ← Given.ofArguments [.config, .help] true arguments
    return (g.config, .validate (← g.requireFile))
  | "compile" =>
    let g ← Given.ofArguments [.config, .target, .output, .help] true arguments
    return (g.config, .compile (← g.requireFile) (g.kind.getD .sql) g.output)
  | "fmt" =>
    let g ← Given.ofArguments [.config, .check, .help] true arguments
    return (g.config, .format (← g.requireFile) g.check)
  | "types" =>
    let g ← Given.ofArguments [.config, .category, .help] false arguments
    return (g.config, .types g.category)
  | "help" => throw (helpOn arguments)
  | _ => throw .misuse

/-- Takes the words up to the command into account, and then reads the command. -/
def ofWords : Given → List Word → Except Stop Request
  | _, [] => .error .misuse
  | g, .command name arguments :: _ => do
    let (config, command) ← ofCommand name arguments
    return ⟨g.verbosity, config <|> g.config, command⟩
  | g, word :: rest => do ofWords (← g.take word) rest

/-- Reads the arguments of the program. -/
def ofArguments (arguments : List String) : Except Stop Request :=
  ofWords .nothing (words [.verbose, .config, .help, .version] true arguments)

end Request

end Etl.CommandLine
