import Etl.Proofs.CommandLine.Outcome
import Etl.Proofs.Pipeline.RoundTrip

/-!
Formatting a file that was formatted before. The canonical text of a pipeline holds the pipeline and
is its own canonical text, but the limit on sizes counts for it anew: a text within the limit can
have a canonical text beyond it, since blanks and defaults are written out. Such a text is written
and is then refused by every command.
-/

namespace Etl

open Results

namespace Pipeline

variable {limits : Limits} {text : String} {p : Pipeline}

theorem ne_empty_of_ofText (loaded : ofText limits text = .ok p) : text ≠ "" := by
  rintro rfl
  obtain ⟨_, _, built⟩ := bind_eq_ok.mp loaded
  cases built

theorem wellFormed_of_ofText (loaded : ofText limits text = .ok p) : p.WellFormed := by
  obtain ⟨_, _, built⟩ := bind_eq_ok.mp loaded
  obtain ⟨_, _, built⟩ := bind_eq_ok.mp built
  exact (Reachable.loaded built).wellFormed

/-- A text is read when its size is within the limit. -/
theorem ofText_eq (limits : Limits) (text : String) :
    ofText limits text =
      if limits.maxSize.toNat < text.utf8ByteSize then
        .error (.oversize ⟨text.utf8ByteSize, limits.maxSize⟩)
      else Error.ofJson Descriptor.shape.read text >>= ofDescriptor := by
  unfold ofText Limits.accept
  split <;> rfl

end Pipeline

namespace CommandLine

/-- A file of a host that formatting leaves alone and that holds a pipeline for the other commands. -/
structure Settled (e : Engine) (file : String) (host : Memory) (p : Pipeline) : Prop where
  format : ∀ check, outcome (format e file check) host = (.ok (), host)
  load : outcome (loadPipeline e file) host = (.ok p, host)

/-- A file of a host that every command refuses for the same fault of its text. -/
structure Refused (e : Engine) (file : String) (host : Memory) (fault : Error) : Prop where
  format : ∀ check, outcome (format e file check) host =
    (.error (.because ("Invalid pipeline descriptor " ++ file) fault), host)
  validate : outcome (validate e file) host =
    (.error (.because ("Invalid pipeline descriptor " ++ file) fault), host)
  compile : ∀ kind output, outcome (compile e file kind output) host =
    (.error (.because ("Invalid pipeline descriptor " ++ file) fault), host)

variable {e : Engine} {file text c : String} {before after host : Memory} {p : Pipeline}

theorem settled_of_ofText (held : host.files.read file = .ok p.canonicalText)
    (loaded : Pipeline.ofText e.limits p.canonicalText = .ok p) : Settled e file host p where
  format check := by
    rw [outcome_format held, Pipeline.canonicalize, loaded]
    exact if_pos rfl
  load := by
    rw [outcome_loadPipeline held, loaded]
    rfl

theorem refused_of_ofText {fault : Error} (held : host.files.read file = .ok text)
    (failed : Pipeline.ofText e.limits text = .error fault) : Refused e file host fault := by
  have unloaded : outcome (loadPipeline e file) host =
      (.error (.because ("Invalid pipeline descriptor " ++ file) fault), host) := by
    rw [outcome_loadPipeline held, failed]
    rfl
  refine ⟨fun check => ?_, outcome_bind_of_error unloaded _, fun kind output =>
    outcome_bind_of_error unloaded _⟩
  rw [outcome_format held, Pipeline.canonicalize, failed]
  rfl

/-- Formatting that succeeds leaves the canonical text in the file. -/
theorem read_of_format (held : before.files.read file = .ok text)
    (loaded : Pipeline.ofText e.limits text = .ok p)
    (done : outcome (format e file false) before = (.ok (), after)) :
    after.files.read file = .ok p.canonicalText := by
  rw [outcome_format held, Pipeline.canonicalize, loaded] at done
  by_cases same : p.canonicalText = text
  · cases (if_pos same).symm.trans done
    rw [same]
    exact held
  · replace done := (if_neg same).symm.trans done
    rw [if_neg Bool.false_ne_true] at done
    split at done
    next written =>
      have read := Memory.read_of_write held (Pipeline.ne_empty_of_ofText loaded) written
      cases done
      exact read
    next => cases done

/-- A canonical text under the limits that it was made under. Within the limit on sizes it is
accepted, stands for the same pipeline and is its own canonical text; so a file that was formatted
is settled. Beyond the limit it is refused, and a file that was formatted is refused too. -/
theorem canonicalize_again (made : Pipeline.canonicalize e.limits text = .ok c)
    (doubles : ∀ p, Pipeline.ofText e.limits text = .ok p → p.DoublesReadBack) :
    ∃ p, Pipeline.ofText e.limits text = .ok p ∧
      (∀ file before after, before.files.read file = .ok text →
        outcome (format e file false) before = (.ok (), after) →
          after.files.read file = .ok c) ∧
      (c.utf8ByteSize ≤ e.limits.maxSize.toNat →
        Pipeline.ofText e.limits c = .ok p ∧ Pipeline.canonicalize e.limits c = .ok c ∧
          ∀ file host, host.files.read file = .ok c → Settled e file host p) ∧
      (e.limits.maxSize.toNat < c.utf8ByteSize →
        Pipeline.ofText e.limits c = .error (.oversize ⟨c.utf8ByteSize, e.limits.maxSize⟩) ∧
          ∀ file host, host.files.read file = .ok c →
            Refused e file host (.oversize ⟨c.utf8ByteSize, e.limits.maxSize⟩)) := by
  obtain ⟨p, loaded, rfl⟩ := map_eq_ok.mp made
  refine ⟨p, loaded, fun file before after held done => read_of_format held loaded done,
    fun small => ?_, fun large => ?_⟩
  · have again : Pipeline.ofText e.limits p.canonicalText = .ok p := by
      rw [Pipeline.ofText_eq, if_neg (Nat.not_lt.mpr small)]
      exact Pipeline.load_canonicalText (Pipeline.wellFormed_of_ofText loaded) (doubles p loaded)
    exact ⟨again, map_eq_ok.mpr ⟨p, again, rfl⟩, fun file host held =>
      settled_of_ofText held again⟩
  · have failed : Pipeline.ofText e.limits p.canonicalText =
        .error (.oversize ⟨p.canonicalText.utf8ByteSize, e.limits.maxSize⟩) := by
      rw [Pipeline.ofText_eq, if_pos large]
    exact ⟨failed, fun file host held => refused_of_ofText held failed⟩

/-- A pipeline without nodes in ten bytes. -/
def compactText : String := "\x7b\"id\":\"p\"\x7d"

/-- An engine for which the compact text is small enough and its canonical text is not. -/
def narrowEngine : Engine := { Engine.standard with limits := ⟨1000, 5000, 40⟩ }

theorem canonicalize_again_compactText :
    ∃ c after, Pipeline.canonicalize narrowEngine.limits compactText = .ok c ∧
      outcome (format narrowEngine "p.json" false)
        (.start (Tree.empty.insert ["p.json"] compactText) []) = (.ok (), after) ∧
      after.files.read "p.json" = .ok c ∧
      Refused narrowEngine "p.json" after (.oversize ⟨c.utf8ByteSize, 40⟩) := by
  let p := Pipeline.empty "p" ""
  let before := Memory.start (Tree.empty.insert ["p.json"] compactText) []
  have loaded : Pipeline.ofText narrowEngine.limits compactText = .ok p :=
    toOption_eq_some.mp (by decide +kernel)
  have made : Pipeline.canonicalize narrowEngine.limits compactText = .ok p.canonicalText := by
    rw [Pipeline.canonicalize, loaded]
    rfl
  have doubles : ∀ q, Pipeline.ofText narrowEngine.limits compactText = .ok q →
      q.DoublesReadBack := by
    intro q other
    cases Except.ok.inj (loaded.symm.trans other)
    decide
  have held : before.files.read "p.json" = .ok compactText := by decide +kernel
  obtain ⟨after, done⟩ : ∃ after,
      outcome (format narrowEngine "p.json" false) before = (.ok (), after) := by
    have place : before.files.destination "p.json" = .ok ⟨.root, ["p.json"]⟩ := by decide +kernel
    have changed : p.canonicalText ≠ compactText := by decide +kernel
    obtain ⟨next, written⟩ : ∃ next, before.write "p.json" p.canonicalText = .ok next := by
      rw [Memory.write, place]
      exact ⟨_, rfl⟩
    refine ⟨next.print ("✓ Formatted " ++ "p.json" ++ "\n"), ?_⟩
    rw [outcome_format held, made]
    refine (if_neg changed).trans ((if_neg Bool.false_ne_true).trans ?_)
    rw [written]
  obtain ⟨_, _, kept, _, refused⟩ := canonicalize_again made doubles
  have left := kept "p.json" before after held done
  exact ⟨_, after, made, done, left, (refused (by decide +kernel)).2 _ _ left⟩

end CommandLine

end Etl
