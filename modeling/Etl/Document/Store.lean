import Etl.Document.Basic

/-!
Stores of documents by pipeline identifier. A document is handed out by a ticket and can be edited
through it for as long as it is wanted, also after it was removed from the store or beside another
document with the same identifier.
-/

namespace Etl

/-- Names one document among all that were ever handed out. -/
abbrev Ticket := Nat

structure Store where
  compiler : Compiler
  /-- All documents handed out, by ticket. -/
  documents : List Document
  /-- The tickets of the documents that are in the store. -/
  present : SortedMap PipelineId Ticket

namespace Store

/-- A store without documents. -/
def empty (compiler : Compiler) : Store := ⟨compiler, [], SortedMap.empty⟩

variable (s : Store)

def document? (t : Ticket) : Option Document := s.documents[t]?

/-- Hands out a document that is not in the store. -/
def place (d : Document) : Ticket × Store :=
  (s.documents.length, { s with documents := s.documents ++ [d] })

/-- Puts a document for a pipeline into the store, unless its identifier is taken. -/
def insert (p : Pipeline) : Except Error (Ticket × Store) :=
  if s.present.contains p.id then .error (.duplicatePipeline p.id)
  else
    let (t, placed) := s.place (.ofPipeline s.compiler p)
    .ok (t, { placed with present := s.present.insert p.id t })

/-- Loads a document into the store. -/
def openText (text : String) : Except Error (Ticket × Store) := do
  s.insert (← s.compiler.load text)

def get? (id : PipelineId) : Option Ticket := s.present.get? id

/-- The identifiers in the store, ascending. -/
def list : List PipelineId := s.present.keys

def size : Nat := s.present.size

def isEmpty : Bool := s.present.isEmpty

/-- Changes one document. -/
def update (t : Ticket) (d : Document) : Store := { s with documents := s.documents.set t d }

end Store

end Etl
