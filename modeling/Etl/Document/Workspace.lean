import Etl.Document.Session
import Etl.Document.Store

/-!
A store at work. Clients put documents into it, look them up and take them out, and each of them
works on any document that it was ever handed, whatever became of the document since. An errand has
the store, or the document that it goes to, to itself.
-/

namespace Etl

namespace Store

/-- Hands out a document and gives its ticket. -/
def handOut (d : Document) : Work Store Ticket := do
  let s ← get
  modify fun s => { s with documents := s.documents ++ [d] }
  return s.documents.length

/-- Puts a document for a pipeline into its place, if that is vacant. -/
def enroll (p : Pipeline) : Work Store Ticket := do
  let s ← get
  if s.present.contains p.id then throw (.duplicatePipeline p.id)
  let t ← handOut (.ofPipeline s.compiler p)
  modify fun s => { s with present := s.present.insert p.id t }
  return t

/-- Loads a pipeline and puts a document for it into its place. -/
def load (text : String) : Work Store Ticket := do
  let p ← Work.ofExcept ((← get).compiler.load text)
  enroll p

/-- Takes a document out of its place and gives its ticket, if there is one. The ticket stays good. -/
def takeOut (id : PipelineId) : Work Store (Option Ticket) := do
  let found := (← get).get? id
  modify fun s => { s with present := s.present.erase id }
  return found

end Store

/-- A store, with the compilations that were ever begun on each of its documents. -/
structure Workspace where
  store : Store
  drafts : Ticket → List Draft

inductive Errand where
  | create (id : PipelineId) (name : String)
  | openText (text : String)
  | get (id : PipelineId)
  | remove (id : PipelineId)
  | list
  /-- A call on a document that was handed out. -/
  | through (t : Ticket) (c : Call)

/-- The call that the errand makes on a document, if it goes to that one. -/
def Errand.callThrough? (t : Ticket) : Errand → Option Call
  | through u c => if u = t then some c else none
  | create .. | openText _ | get _ | remove _ | list => none

inductive Reply where
  | ticket (t : Ticket)
  | found (t : Option Ticket)
  | ids (ids : List PipelineId)
  | answer (a : Answer)

namespace Workspace

def empty (compiler : Compiler) : Workspace := ⟨.empty compiler, fun _ => []⟩

/-- A document that was handed out, with its compilations. -/
def session? (w : Workspace) (t : Ticket) : Option Session :=
  (w.store.document? t).map fun d => ⟨d, w.drafts t⟩

/-- Puts a document back after a call. -/
def put (w : Workspace) (t : Ticket) (s : Session) : Workspace where
  store := w.store.update t s.document
  drafts := fun u => if u = t then s.drafts else w.drafts u

def onStore {α : Type} (work : Work Store α) : Work Workspace α :=
  work.within store fun w store => { w with store }

def serve : Errand → Work Workspace Reply
  | .create id name => return .ticket (← onStore (Store.enroll (.empty id name)))
  | .openText text => return .ticket (← onStore (Store.load text))
  | .get id => return .found ((← get).store.get? id)
  | .remove id => return .found (← onStore (Store.takeOut id))
  | .list => return .ids (← get).store.list
  | .through t c => do
    match (← get).session? t with
    | none => return .found none
    | some s =>
      return .answer (← (Session.serve c).within (fun _ => s) fun w s => w.put t s)

/-- The reply to an errand, and the workspace after it. -/
structure Outcome where
  reply : Except Error Reply
  after : Workspace

def enter (w : Workspace) (e : Errand) : Outcome :=
  match (serve e).run w with
  | .ok reply v => ⟨.ok reply, v⟩
  | .error fault v => ⟨.error fault, v⟩

/-- The workspace after errands. -/
def run (w : Workspace) (errands : List Errand) : Workspace :=
  errands.foldl (fun w e => (w.enter e).after) w

end Workspace

end Etl
