import Etl.CommandLine.Failure
import Etl.CommandLine.Listing
import Etl.CommandLine.Request
import Etl.Engine

/-!
Running a command line on a host. The configuration is read first, then the pipeline, and only then
the node types. The program ends with 0, with 1 after a failure, and with 2 when its arguments are
not understood.
-/

namespace Etl.CommandLine

variable {m : Type → Type} [Monad m] [Host m]

/-- The engine of a request: from the file it names, from the file a variable names, or the standard
one. -/
def loadEngine (config : Option String) : ExceptT Failure m Engine := do
  match config with
  | some path => (Engine.ofFile path).adapt (.because ("Failed to load config " ++ path))
  | none =>
    match ← (Host.env? "PIPEWRIGHT_CONFIG" : m _) with
    | some path =>
      (Engine.ofFile path).adapt (.because "Failed to load config from PIPEWRIGHT_CONFIG")
    | none => return .standard

/-- The text of a pipeline file. -/
def readPipeline (file : String) : ExceptT Failure m String := do
  if !(← (Host.exists? file : m _)) then throw (.plain ("Pipeline file not found: " ++ file))
  match ← (Host.read file : m _) with
  | .ok text => return text
  | .error fault => throw (.becauseFile ("Failed to read " ++ file) fault)

/-- What was read from the text of a pipeline file. -/
def understood {α : Type} (file : String) (r : Except Error α) : ExceptT Failure m α :=
  ExceptT.mk (pure (r.mapError (.because ("Invalid pipeline descriptor " ++ file))))

def writeFile (file text : String) : ExceptT Failure m Unit := do
  match ← (Host.write file text : m _) with
  | .ok _ => return
  | .error fault => throw (.becauseFile ("Failed to write " ++ file) fault)

/-- The pipeline of a file, within the limits of an engine. -/
def loadPipeline (e : Engine) (file : String) : ExceptT Failure m Pipeline := do
  understood file (Pipeline.ofText e.limits (← readPipeline file))

def validate (e : Engine) (file : String) : ExceptT Failure m Unit := do
  let p ← loadPipeline e file
  let c ← e.catalog.adapt .ofError
  let report := e.validator.validate p c
  Host.print (m := m) (showReport file p report)
  if !report.isDeployable then throw (.plain "Pipeline validation failed")

def compile (e : Engine) (file : String) (kind : ArtifactKind) (output : Option String) :
    ExceptT Failure m Unit := do
  let p ← loadPipeline e file
  let c ← e.compiler.adapt .ofError
  let failed := "Compilation of " ++ file ++ " failed"
  match c.generate p kind with
  | .error (.notDeployable diagnostics) =>
    Host.warn (m := m) (showBlocking diagnostics)
    throw (.plain failed)
  | .error error => throw (.because failed error)
  | .ok text =>
    match output with
    | none => Host.print (m := m) text
    | some output =>
      writeFile output text
      Host.warn (m := m) ("✓ Compiled " ++ file ++ " to " ++ output ++ " (" ++
        toString text.utf8ByteSize ++ " bytes)\n")

/-- Brings a file into canonical form, or only says whether it has that form. -/
def format (e : Engine) (file : String) (check : Bool) : ExceptT Failure m Unit := do
  let text ← readPipeline file
  let canonical ← understood file (Pipeline.canonicalize e.limits text)
  if canonical = text then return
  if check then
    Host.print (m := m) ("✗ " ++ file ++ " is not canonically formatted\n")
    throw (.plain "Formatting check failed")
  writeFile file canonical
  Host.print (m := m) ("✓ Formatted " ++ file ++ "\n")

def types (e : Engine) (category : Option Category) : ExceptT Failure m Unit := do
  let c ← e.catalog.adapt .ofError
  Host.print (m := m) (showTypes (c.list category))

def Request.run (r : Request) : ExceptT Failure m Unit := do
  let e ← loadEngine r.config
  match r.command with
  | .validate file => validate e file
  | .compile file kind output => compile e file kind output
  | .format file check => format e file check
  | .types category => types e category

def usage : String :=
  lines
    ["Usage: pipewright [-v] [-c CONFIG] COMMAND", "",
     "  validate FILE                           Report what is wrong with a pipeline",
     "  compile FILE [-t sql|json] [-o OUTPUT]  Compile a pipeline",
     "  fmt FILE [--check]                      Bring a pipeline into canonical form",
     "  types [--category CATEGORY]             List node types"]

/-- Runs the program and gives the code it ends with. -/
def run (arguments : List String) : m UInt32 := do
  match Request.ofArguments arguments with
  | .error .misuse =>
    Host.warn usage
    return 2
  | .error .help =>
    Host.print usage
    return 0
  | .error .version =>
    Host.print "pipewright 0.1.0\n"
    return 0
  | .ok request =>
    match ← request.run.run with
    | .ok _ => return 0
    | .error failure =>
      Host.warn failure.message
      return 1

end Etl.CommandLine
