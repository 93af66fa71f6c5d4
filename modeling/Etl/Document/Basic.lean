import Etl.Compiler
import Etl.Document.Edit

/-!
Documents: a pipeline that is edited step by step. The version counts the accepted edits, so that a
client can make its edit depend on the version it has seen. Compiled texts are kept until the next
edit.
-/

namespace Etl

/-- The texts compiled from the present version. -/
structure Cache where
  sql : Option Artifact
  json : Option Artifact
deriving DecidableEq

namespace Cache

def empty : Cache := ⟨none, none⟩

def get? (c : Cache) : ArtifactKind → Option Artifact
  | .sql => c.sql
  | .json => c.json

/-- Keeps a text under its kind. -/
def put (c : Cache) (a : Artifact) : Cache :=
  match a.kind with
  | .sql => { c with sql := some a }
  | .json => { c with json := some a }

def size (c : Cache) : Nat := c.sql.toList.length + c.json.toList.length

end Cache

structure Document where
  compiler : Compiler
  pipeline : Pipeline
  /-- How many edits were accepted. The number has no bound: a counter of 64 bits shows the same one
  as long as fewer than `2 ^ 64` edits were accepted. -/
  version : Nat
  cache : Cache

/-- A pipeline as it was at some version. -/
structure Snapshot where
  pipeline : Pipeline
  version : Nat
deriving DecidableEq

namespace Document

/-- A document that starts with a pipeline. -/
def ofPipeline (compiler : Compiler) (p : Pipeline) : Document := ⟨compiler, p, 0, .empty⟩

/-- A document with an empty pipeline. -/
def new (compiler : Compiler) (id : PipelineId) (name : String) : Document :=
  ofPipeline compiler (.empty id name)

/-- A document loaded from a text. -/
def ofText (compiler : Compiler) (text : String) : Except Error Document :=
  (compiler.load text).map (ofPipeline compiler)

variable (d : Document)

def id : PipelineId := d.pipeline.id

def snapshot : Snapshot := ⟨d.pipeline, d.version⟩

/-- The document after an edit; a refused edit changes nothing. -/
def apply (e : Edit) : Except Error Document := do
  e.check d.compiler.catalog d.pipeline
  let pipeline ← e.perform d.pipeline
  return { d with pipeline, version := d.version + 1, cache := .empty }

/-- Applies an edit only if the document is still at a version. -/
def applyAt (version : Nat) (e : Edit) : Except Error Document :=
  if d.version = version then d.apply e else .error (.staleVersion version d.version)

def validate : Report := d.compiler.validator.validate d.pipeline d.compiler.catalog

def canonicalText : String := d.pipeline.canonicalText

/-- The compiled text of a kind, kept from before or made now and kept. -/
def compile (kind : ArtifactKind) : Except Error Artifact × Document :=
  match d.cache.get? kind with
  | some artifact => (.ok artifact, d)
  | none =>
    match d.compiler.compile d.pipeline kind d.version with
    | .ok artifact => (.ok artifact, { d with cache := d.cache.put artifact })
    | .error e => (.error e, d)

/-- One line about the document. -/
def describe : String :=
  "PipelineDocument \x7b id: PipelineId(" ++ Text.escaped d.id ++ "), version: " ++
    toString d.version ++ ", nodes: " ++ toString d.pipeline.nodeCount ++ ", cached: " ++
    toString d.cache.size ++ " \x7d"

end Document

end Etl
