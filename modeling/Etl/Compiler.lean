import Etl.Pipeline.Descriptor
import Etl.Sql.Script
import Etl.Text.Lowercase
import Etl.Validation.Validator

/-!
Compilation: a pipeline that validates is turned into a text of some kind. Nothing is generated for
a pipeline that is not deployable.
-/

namespace Etl

inductive ArtifactKind where
  | sql
  | json
deriving DecidableEq, Repr

namespace ArtifactKind

def name : ArtifactKind → String
  | sql => "sql"
  | json => "json"

def all : List ArtifactKind := [sql, json]

/-- Reads a name in any case. -/
def parse (text : String) : Except UnknownName ArtifactKind :=
  ofName "artifact kind" (all.map fun k => (k.name, k)) (Text.lowercase text)

end ArtifactKind

/-- The result of a compilation: the text and the version of the pipeline it was made from. -/
structure Artifact where
  kind : ArtifactKind
  text : String
  pipelineId : PipelineId
  version : Nat
deriving DecidableEq

def Artifact.toJson (a : Artifact) : Json :=
  .object
    [("kind", .text a.kind.name), ("text", .text a.text), ("pipeline_id", .text a.pipelineId),
     ("version", .ofSize a.version.toUInt64)]

/-- What compilation depends on beside the pipeline. -/
structure Compiler where
  catalog : Catalog
  validator : Validator

instance : Inhabited Compiler := ⟨⟨default, default⟩⟩

namespace Compiler

variable (c : Compiler)

/-- The text of a pipeline, whether or not it is deployable. -/
def emit (p : Pipeline) : ArtifactKind → Except Error String
  | .sql => (Sql.plan p c.catalog).map Sql.Script.render
  | .json => .ok p.canonicalText

/-- The text of a deployable pipeline. -/
def generate (p : Pipeline) (kind : ArtifactKind) : Except Error String :=
  let report := c.validator.validate p c.catalog
  if report.isDeployable then c.emit p kind else .error (.notDeployable report.diagnostics)

def compile (p : Pipeline) (kind : ArtifactKind) (version : Nat) : Except Error Artifact :=
  (c.generate p kind).map fun text => ⟨kind, text, p.id, version⟩

/-- Loads a pipeline within the limits of the validator. -/
def load (text : String) : Except Error Pipeline :=
  Pipeline.ofText c.validator.limits text

end Compiler

end Etl
