import Etl.Proofs.Pipeline.Descriptor
import Etl.Proofs.Pipeline.Loading

/-!
The persisted form of a pipeline loses nothing. Its canonical text is read back as the descriptor
that was written, from which a well-formed pipeline is rebuilt. So loading the text gives the
pipeline again, and pipelines with the same text are the same.
-/

namespace Etl.Pipeline

open Results

variable {p : Pipeline}

/-- All doubles in the configuration of a pipeline are read back. -/
def DoublesReadBack (p : Pipeline) : Prop :=
  ∀ node ∈ p.nodeList, ∀ e ∈ node.config.entries, e.2.ReadsBack

instance : Decidable p.DoublesReadBack :=
  inferInstanceAs (Decidable (∀ node ∈ p.nodeList, ∀ e ∈ node.config.entries, e.2.ReadsBack))

/-- The canonical text holds the pipeline. -/
theorem load_canonicalText (h : p.WellFormed) (doubles : p.DoublesReadBack) :
    Error.ofJson Descriptor.shape.read p.canonicalText >>= ofDescriptor = .ok p := by
  have read : Error.ofJson Descriptor.shape.read p.canonicalText = .ok p.toDescriptor := by
    have text : Json.Reader.ofText Descriptor.shape.read p.canonicalText = .ok p.toDescriptor :=
      Descriptor.ofText_indented (d := p.toDescriptor) doubles
    exact mapError_eq_ok.mpr text
  exact bind_eq_ok.mpr ⟨p.toDescriptor, read, ofDescriptor_toDescriptor h⟩

/-- Within limits that admit it, the canonical text of a pipeline is loaded as that pipeline and
printed as it was, and no other pipeline has this text. -/
theorem ofText_canonicalText (h : p.Reachable) (doubles : p.DoublesReadBack) :
    (∀ limits : Limits, limits.accept p.canonicalText = .ok () →
      ofText limits p.canonicalText = .ok p ∧
        canonicalize limits p.canonicalText = .ok p.canonicalText) ∧
      ∀ q : Pipeline, q.Reachable → q.DoublesReadBack → q.canonicalText = p.canonicalText →
        q = p := by
  have loaded := load_canonicalText h.wellFormed doubles
  refine ⟨fun limits admitted => ?_, fun q reached same text => ?_⟩
  · have read : ofText limits p.canonicalText = .ok p :=
      bind_eq_ok.mpr ⟨(), mapError_eq_ok.mpr admitted, loaded⟩
    exact ⟨read, map_eq_ok.mpr ⟨p, read, rfl⟩⟩
  · have other := load_canonicalText reached.wellFormed same
    rw [text, loaded] at other
    exact (Except.ok.inj other).symm

/-- A character takes at most four bytes. -/
theorem accept_of_length {limits : Limits} {cs : List Char}
    (short : 4 * cs.length ≤ limits.maxSize.toNat) :
    limits.accept (String.ofList cs) = .ok () := by
  have bytes : (String.ofList cs).utf8ByteSize ≤ 4 * cs.length := by
    clear short
    induction cs with
    | nil => exact Nat.le_refl 0
    | cons c cs ih =>
        have size := c.utf8Size_le_four
        rw [String.ofList_cons, String.utf8ByteSize_append, String.utf8ByteSize_singleton,
          List.length_cons]
        omega
  rw [Limits.accept, if_neg (by omega)]

/-- Two nodes on a cycle, with texts that have to be escaped, an empty list and a fraction. -/
def mixedDescriptor : Descriptor where
  id := "p"
  name := "naïve \"quotes\"\n"
  nodes :=
    [⟨"a\\b", "transform-filter", "Ω",
        .ofList [("share", .number (.double ⟨false, 1022 * Double.binade, by decide⟩)),
          ("rows", .number (.integer (-7) (by decide)))]⟩,
     ⟨"c\td", "transform-sql", "", .ofList [("on", .flag true), ("keys", .list [])]⟩]
  edges := [⟨"a\\b", "c\td"⟩, ⟨"c\td", "a\\b"⟩]

theorem ofText_canonicalText_mixedDescriptor :
    ∃ p, ofDescriptor mixedDescriptor = .ok p ∧ p.Reachable ∧
      ofText .standard p.canonicalText = .ok p := by
  obtain ⟨p, built⟩ : ∃ p, ofDescriptor mixedDescriptor = .ok p := ⟨_, rfl⟩
  have h : p.Reachable := .loaded built
  have doubles : p.DoublesReadBack := by
    cases built
    decide +kernel
  have admitted : Limits.standard.accept p.canonicalText = .ok () := by
    rw [canonicalText, Json.indented_append_break]
    apply accept_of_length
    cases built
    decide +kernel
  exact ⟨p, built, h, ((ofText_canonicalText h doubles).1 _ admitted).1⟩

end Etl.Pipeline
