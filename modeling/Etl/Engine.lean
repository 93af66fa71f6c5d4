import Etl.Catalog.Standard
import Etl.Catalog.Yaml
import Etl.Compiler
import Etl.Files.Host
import Etl.Files.Path

/-!
Engines: what a configuration file decides. It can give a policy, limits and a file with further
node types; everything left out has its standard value. The path of the types counts from the
directory of the configuration file.
-/

namespace Etl

/-- Reads a map of severities. The last of equal rules counts. -/
def Policy.readYaml : Yaml.Reader Policy := fun node => do
  let entries ← Yaml.Reader.map (.oneOf Rule.known) (.oneOf Severity.known) node
  (Policy.empty.overrideAll (SortedMap.ofList entries).entries).toOption

def Limits.readYaml : Yaml.Reader Limits :=
  Yaml.Reader.record
    [.withDefault "max_node_count" .size fun v l => { l with maxNodes := v },
     .withDefault "max_edge_count" .size fun v l => { l with maxEdges := v },
     .withDefault "max_descriptor_size" .size fun v l => { l with maxSize := v }]
    .standard

/-- Reads a list of types from a file's text, as JSON if the file's name says so. -/
def Catalog.typesOfFile (path text : String) : Except Error (List NodeType) :=
  if (Path.extension? path).any fun e => Text.lowerAscii e = "json" then typesOfJson text
  else typesOfYaml text

/-- Reads a file, with the fault as an error. -/
def Host.load {m : Type → Type} [Monad m] [Host m] (path : String) : ExceptT Error m String := do
  match ← (Host.read path : m _) with
  | .ok text => return text
  | .error fault => throw (.file path fault)

/-- The types a file lists. -/
def Catalog.loadTypes {m : Type → Type} [Monad m] [Host m] (path : String) :
    ExceptT Error m (List NodeType) := do
  let text ← Host.load path
  ExceptT.mk (pure (typesOfFile path text))

structure Engine where
  policy : Policy
  limits : Limits
  /-- The file with further node types. -/
  types : Option String

namespace Engine

def standard : Engine := ⟨.empty, .standard, none⟩

instance : Inhabited Engine := ⟨standard⟩

def readYaml : Yaml.Reader Engine :=
  Yaml.Reader.record
    [.withDefault "policy" Policy.readYaml fun v e => { e with policy := v },
     .withDefault "limits" Limits.readYaml fun v e => { e with limits := v },
     .withDefault "registry" (.optional .text) fun v e => { e with types := v }]
    standard

/-- Reads a configuration; a blank text decides nothing. -/
def ofYaml (text : String) : Except Error Engine :=
  if Text.isBlank text then .ok standard else Error.ofYaml readYaml text

def validator (e : Engine) : Validator := ⟨e.limits, e.policy⟩

variable {m : Type → Type} [Monad m] [Host m]

/-- Reads a configuration file. -/
def ofFile (path : String) : ExceptT Error m Engine := do
  let text ← Host.load path
  let e ← ExceptT.mk (pure (ofYaml text))
  return { e with types := e.types.map (Path.join ((Path.parent? path).getD "")) }

/-- The standard types and those of the engine's file. -/
def catalog (e : Engine) : ExceptT Error m Catalog :=
  match e.types with
  | none => return .standard
  | some path => do
    let types ← Catalog.loadTypes path
    ExceptT.mk (pure (Catalog.standard.extend types))

/-- A compiler with the engine's types, limits and policy. -/
def compiler (e : Engine) : ExceptT Error m Compiler := do return ⟨← e.catalog, e.validator⟩

end Engine

end Etl
