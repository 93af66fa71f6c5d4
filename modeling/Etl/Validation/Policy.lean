import Etl.SortedMap
import Etl.Validation.Diagnostic

/-!
Policies give the findings of a rule another severity. A blocking rule can only be given the
severity it has: the findings that make a pipeline undeployable stay errors under every policy.
-/

namespace Etl

/-- An attempt to weaken a blocking rule. -/
structure PolicyFault where
  rule : Rule
  severity : Severity
deriving DecidableEq

def PolicyFault.message (f : PolicyFault) : String :=
  "Invalid validation policy for rule '" ++ f.rule.name ++
    "': blocking rule cannot be demoted to " ++ f.severity.name

/-- Severities by rule. -/
structure Policy where
  overrides : SortedMap Rule Severity
  blocking : ∀ e ∈ overrides.entries, e.1.isBlocking → e.2 = .error

namespace Policy

/-- The policy that changes nothing. -/
def empty : Policy := ⟨SortedMap.empty, fun _ h => by cases h⟩

instance : Inhabited Policy := ⟨empty⟩

def isEmpty (p : Policy) : Bool := p.overrides.isEmpty

def severityFor (p : Policy) (r : Rule) : Option Severity := p.overrides.get? r

/-- Gives a rule a severity. -/
def override (p : Policy) (r : Rule) (s : Severity) : Except PolicyFault Policy :=
  if allowed : r.isBlocking → s = .error then
    .ok ⟨p.overrides.insert r s, fun e h => by
      rcases SortedMap.mem_insertEntry h with rfl | h
      · exact allowed
      · exact p.blocking e h⟩
  else .error ⟨r, s⟩

/-- Gives several rules severities, in order. -/
def overrideAll (p : Policy) (l : List (Rule × Severity)) : Except PolicyFault Policy :=
  l.foldlM (fun p e => p.override e.1 e.2) p

/-- The diagnostic under the policy; an information stays one. -/
def apply (p : Policy) (d : Diagnostic) : Diagnostic :=
  if d.severity = .info then d
  else
    match p.severityFor d.rule with
    | some s => { d with severity := s }
    | none => d

def toJson (p : Policy) : Json :=
  .object (p.overrides.entries.map fun (r, s) => (r.name, .text s.name))

/-- Reads an object of severities. The last of equal rules counts, and rules are then taken in
their order. -/
def read : Json.Reader Policy := fun raw => do
  let entries ← Json.Reader.object (.oneOf Rule.known) (.oneOf Severity.known) raw
  match empty.overrideAll (SortedMap.ofList entries).entries with
  | .ok p => return p
  | .error f => .error (.mismatch (.refused ("E502: " ++ f.message)))

end Policy

end Etl
