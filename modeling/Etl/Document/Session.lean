import Etl.Document.Basic
import Etl.Pipeline.Change

/-!
Documents that several clients share. A call has the document to itself while it changes it, so all
changes come one after the other. Only the making of a text happens beside them: a compilation can
be begun, be overtaken by edits, and then end on a document that has moved on.
-/

namespace Etl

def Edit.operation : Edit → Pipeline.Operation
  | addNode node => .addNode node
  | removeNode id => .removeNode id
  | addEdge edge => .addEdge edge
  | removeEdge edge => .removeEdge edge
  | setConfig id config => .configure id config
  | updateConfig id changes => .reconfigure id changes
  | setLabel id label => .relabel id label
  | rename name => .setName name

namespace Document

/-- Applies an edit in place and gives the new version. -/
def edit (e : Edit) : Work Document Nat := do
  let d ← get
  Work.ofExcept (e.check d.compiler.catalog d.pipeline)
  Work.within pipeline (fun d pipeline => { d with pipeline }) e.operation.change
  modify fun d => { d with version := d.version + 1 }
  modify fun d => { d with cache := .empty }
  return (← get).version

def editAt (expected : Nat) (e : Edit) : Work Document Nat := do
  let d ← get
  if d.version ≠ expected then throw (.staleVersion expected d.version)
  edit e

/-- Keeps an artifact, if the document is still at the version that it was made from. -/
def keep (a : Artifact) : Work Document Unit := do
  let d ← get
  if d.version ≠ a.version then throw (.staleVersion a.version d.version)
  modify fun d => { d with cache := d.cache.put a }

def finish (kind : ArtifactKind) (s : Snapshot) : Work Document Artifact := do
  let d ← get
  let a ← Work.ofExcept (d.compiler.compile s.pipeline kind s.version)
  keep a
  return a

/-- Gives the artifact that is kept, or makes it from the present pipeline. -/
def produce (kind : ArtifactKind) : Work Document Artifact := do
  let d ← get
  match d.cache.get? kind with
  | some a => return a
  | none => finish kind d.snapshot

end Document

/-- A compilation that was begun, and what it works on. -/
structure Draft where
  kind : ArtifactKind
  source : Snapshot

/-- A document with all compilations that were ever begun on it. -/
structure Session where
  document : Document
  drafts : List Draft

inductive Call where
  | edit (e : Edit)
  | editAt (version : Nat) (e : Edit)
  | compile (kind : ArtifactKind)
  /-- The first part of a compilation, after which other calls can come. -/
  | beginCompile (kind : ArtifactKind)
  /-- The second part of the compilation with this number. -/
  | endCompile (draft : Nat)
  | validate
  | snapshot

def Call.edit? : Call → Option Edit
  | edit e | editAt _ e => some e
  | compile _ | beginCompile _ | endCompile _ | validate | snapshot => none

inductive Answer where
  | version (version : Nat)
  | artifact (a : Artifact)
  | draft (draft : Nat)
  | report (report : Report)
  | snapshot (s : Snapshot)
  | nothing

namespace Session

def start (d : Document) : Session := ⟨d, []⟩

def onDocument {α : Type} (work : Work Document α) : Work Session α :=
  work.within document fun s document => { s with document }

/-- The first part of a compilation: the artifact that is kept, or the number of a draft. -/
def beginCompile (kind : ArtifactKind) : Work Session Answer := do
  let s ← get
  match s.document.cache.get? kind with
  | some a => return .artifact a
  | none =>
    modify fun s => { s with drafts := s.drafts ++ [⟨kind, s.document.snapshot⟩] }
    return .draft s.drafts.length

def endCompile (number : Nat) : Work Session Answer := do
  match (← get).drafts[number]? with
  | none => return .nothing
  | some draft => return .artifact (← onDocument (Document.finish draft.kind draft.source))

def serve : Call → Work Session Answer
  | .edit e => return .version (← onDocument (Document.edit e))
  | .editAt version e => return .version (← onDocument (Document.editAt version e))
  | .compile kind => return .artifact (← onDocument (Document.produce kind))
  | .beginCompile kind => beginCompile kind
  | .endCompile number => endCompile number
  | .validate => return .report (← get).document.validate
  | .snapshot => return .snapshot (← get).document.snapshot

/-- One call, its answer, and the session before and after it. -/
structure Entry where
  before : Session
  call : Call
  answer : Except Error Answer
  after : Session

def enter (s : Session) (c : Call) : Entry :=
  match (serve c).run s with
  | .ok a t => ⟨s, c, .ok a, t⟩
  | .error fault t => ⟨s, c, .error fault, t⟩

def log (s : Session) : List Call → List Entry
  | [] => []
  | c :: rest => s.enter c :: log (s.enter c).after rest

/-- The session after calls. -/
def run (s : Session) (calls : List Call) : Session :=
  calls.foldl (fun s c => (s.enter c).after) s

end Session

end Etl
