import Etl.CommandLine.Run
import Etl.Files.Memory
import Etl.Proofs.Files.Tree

/-!
Commands on a host in memory: how they end, and what they leave behind. Each step of a command is
described by its outcome on a host.
-/

namespace Etl.CommandLine

variable {α β : Type} {e : Engine} {file text : String} {host next : Memory}

/-- How a command ends and the host it leaves. -/
def outcome (command : ExceptT Failure (StateM Memory) α) (host : Memory) :
    Except Failure α × Memory :=
  command.run.run host

theorem outcome_bind_of_ok {first : ExceptT Failure (StateM Memory) α} {a : α}
    (done : outcome first host = (.ok a, next)) (rest : α → ExceptT Failure (StateM Memory) β) :
    outcome (first >>= rest) host = outcome (rest a) next := by
  unfold outcome at done ⊢
  rw [ExceptT.run_bind, StateT.run_bind, done]
  rfl

theorem outcome_bind_of_error {first : ExceptT Failure (StateM Memory) α} {failure : Failure}
    (failed : outcome first host = (.error failure, next))
    (rest : α → ExceptT Failure (StateM Memory) β) :
    outcome (first >>= rest) host = (.error failure, next) := by
  unfold outcome at failed ⊢
  rw [ExceptT.run_bind, StateT.run_bind, failed]
  rfl

/-- A command goes on with what its host answers. -/
theorem outcome_bind_request (request : StateM Memory α)
    (rest : α → ExceptT Failure (StateM Memory) β) (host : Memory) :
    outcome (liftM request >>= rest) host =
      outcome (rest (request.run host).1) (request.run host).2 := rfl

theorem run_exists (file : String) (host : Memory) :
    (Host.exists? file : StateM Memory Bool).run host = (host.files.contains file, host) := rfl

theorem run_read (file : String) (host : Memory) :
    (Host.read file : StateM Memory _).run host = (host.files.read file, host) := rfl

theorem run_write (file text : String) (host : Memory) :
    (Host.write file text : StateM Memory _).run host = match host.write file text with
      | .ok next => (.ok (), next)
      | .error fault => (.error fault, host) := by
  show (match host.write file text with
    | .ok next => _
    | .error fault => _ : StateM Memory (Except FileFault Unit)).run host = _
  cases host.write file text <;> rfl

theorem outcome_readPipeline (held : host.files.read file = .ok text) :
    outcome (readPipeline file) host = (.ok text, host) := by
  have present : host.files.contains file = true := by
    obtain ⟨place, found, _⟩ := Tree.read_eq_ok.mp held
    rw [Tree.contains, found]
    rfl
  unfold readPipeline
  rw [outcome_bind_request, run_exists, present]
  show outcome (liftM (Host.read file : StateM Memory _) >>= _) host = _
  rw [outcome_bind_request, run_read, held]
  rfl

theorem outcome_writeFile (file text : String) (host : Memory) :
    outcome (writeFile file text) host = match host.write file text with
      | .ok next => (.ok (), next)
      | .error fault => (.error (.becauseFile ("Failed to write " ++ file) fault), host) := by
  unfold writeFile
  rw [outcome_bind_request, run_write]
  cases host.write file text <;> rfl

theorem outcome_understood (file : String) (r : Except Error α) (host : Memory) :
    outcome (understood file r) host =
      (r.mapError (.because ("Invalid pipeline descriptor " ++ file)), host) := rfl

theorem outcome_loadPipeline (held : host.files.read file = .ok text) :
    outcome (loadPipeline e file) host =
      ((Pipeline.ofText e.limits text).mapError
        (.because ("Invalid pipeline descriptor " ++ file)), host) := by
  unfold loadPipeline
  rw [outcome_bind_of_ok (outcome_readPipeline held)]
  rfl

/-- Bringing a file into canonical form: what it holds is read as a pipeline, and only then looked at
as a text. -/
theorem outcome_format (held : host.files.read file = .ok text) (check : Bool) :
    outcome (format e file check) host = match Pipeline.canonicalize e.limits text with
      | .error fault => (.error (.because ("Invalid pipeline descriptor " ++ file) fault), host)
      | .ok canonical =>
        if canonical = text then (.ok (), host)
        else if check then
          (.error (.plain "Formatting check failed"),
            host.print ("✗ " ++ file ++ " is not canonically formatted\n"))
        else match host.write file canonical with
          | .ok next => (.ok (), next.print ("✓ Formatted " ++ file ++ "\n"))
          | .error fault => (.error (.becauseFile ("Failed to write " ++ file) fault), host) := by
  unfold format
  rw [outcome_bind_of_ok (outcome_readPipeline held)]
  cases made : Pipeline.canonicalize e.limits text with
  | error fault => exact outcome_bind_of_error (outcome_understood ..) _
  | ok canonical =>
    rw [outcome_bind_of_ok (outcome_understood ..)]
    by_cases same : canonical = text
    · rw [if_pos same]
      exact (if_pos same).symm
    · rw [if_neg same]
      refine Eq.trans ?_ (if_neg same).symm
      cases check with
      | true => rfl
      | false =>
        have wrote := outcome_writeFile file canonical host
        show outcome (writeFile file canonical >>= _) host = match host.write file canonical with
          | .ok next => _
          | .error fault => _
        cases done : host.write file canonical with
        | ok next =>
          rw [done] at wrote
          rw [outcome_bind_of_ok wrote]
          rfl
        | error fault =>
          rw [done] at wrote
          rw [outcome_bind_of_error wrote]

end Etl.CommandLine
