import Etl.Pipeline.Basic
import Etl.Sql.Name

/-!
Relation names. Each node gets a view of its own, named after it. A name that is taken, by a table
or topic of the pipeline or by a node before it, gets the first free number; letters that differ
only in case count as equal.
-/

namespace Etl.Sql

/-- The last parts of the names of tables and topics that the nodes are configured with. -/
def externalNames (p : Pipeline) : List String :=
  p.nodeList.flatMap fun node =>
    ["table", "topic"].filterMap fun field =>
      ((node.config.get? field).bind (·.text?)).bind fun name => (Text.split '.' name).getLast?

/-- The name itself, then the name with a number from two on. -/
def candidate (base : String) : Nat → String
  | 0 => base
  | k + 1 => base ++ "_" ++ toString (k + 2)

/-- The first candidate that is not taken. One more candidate than names are taken is enough. -/
def freeName (taken : List String) (base : String) : String :=
  let names := (List.range (taken.length + 1)).map (candidate base)
  (names.find? fun name => !taken.contains (Text.lowerAscii name)).getD base

/-- Names nodes one after the other. -/
def assignNames (taken : List String) : List NodeId → List (NodeId × String)
  | [] => []
  | id :: ids =>
    let name := freeName taken ("pw_" ++ sanitize id)
    (id, name) :: assignNames (Text.lowerAscii name :: taken) ids

/-- The relation name of every node, in order of the nodes. -/
def relationNames (p : Pipeline) : List (NodeId × String) :=
  assignNames ((externalNames p).map Text.lowerAscii) p.nodes.keys

end Etl.Sql
