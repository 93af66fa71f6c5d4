import Mathlib.Data.List.TakeDrop
import Mathlib.Data.List.TakeWhile
import Etl.Json.Numeral
import Etl.Proofs.Results

/-!
Numbers are read back. A numeral that makes up a whole text is read the same way where something
else follows it, as long as that cannot belong to a numeral. Integers are always read back; whether
a double is depends on how well its digits are read.
-/

namespace Etl.Json

open Results

namespace Numeral

/-- The text cannot go on with a part of a numeral. -/
def Ends (rest : List Char) : Prop :=
  ∀ c ∈ rest.head?, isDigit c = false ∧ c ≠ '.' ∧ c ≠ 'e' ∧ c ≠ 'E'

theorem span_append {cs rest : List Char} (ends : Ends rest) :
    (cs ++ rest).span isDigit = ((cs.span isDigit).1, (cs.span isDigit).2 ++ rest) := by
  simp only [List.span_eq_takeWhile_dropWhile]
  induction cs with
  | nil =>
      cases rest with
      | nil => rfl
      | cons c rest =>
          obtain ⟨digit, _⟩ := ends c rfl
          simp [digit]
  | cons c cs ih =>
      obtain ⟨same, after⟩ := Prod.mk.inj ih
      cases digit : isDigit c <;>
        simp [digit, same, after]

variable {cs after rest : List Char}

theorem scanDigits_append (ends : Ends rest) {digits : List Char}
    (scanned : scanDigits cs = .ok (digits, after)) :
    scanDigits (cs ++ rest) = .ok (digits, after ++ rest) := by
  cases cs with
  | nil => cases scanned
  | cons c cs =>
      rw [List.cons_append]
      simp only [scanDigits] at scanned ⊢
      split at scanned
      next digit =>
        have run := Except.ok.inj scanned
        rw [if_pos digit, ← List.cons_append, span_append ends, run]
      next => cases scanned

theorem scanWhole_append (ends : Ends rest) {digits : List Char}
    (scanned : scanWhole cs = .ok (digits, after)) :
    scanWhole (cs ++ rest) = .ok (digits, after ++ rest) := by
  obtain ⟨⟨found, left⟩, digits, checked⟩ := bind_eq_ok.mp scanned
  refine bind_eq_ok.mpr ⟨_, scanDigits_append ends digits, ?_⟩
  simp only at checked ⊢
  split at checked
  · cases checked
  next sound =>
    obtain ⟨rfl, rfl⟩ := Prod.mk.inj (Except.ok.inj checked)
    rw [if_neg sound]
    rfl

theorem scanFraction_append (ends : Ends rest) {digits : List Char}
    (scanned : scanFraction cs = .ok (digits, after)) :
    scanFraction (cs ++ rest) = .ok (digits, after ++ rest) := by
  unfold scanFraction at scanned
  split at scanned
  · exact scanDigits_append ends scanned
  next none =>
    obtain ⟨rfl, rfl⟩ := Prod.mk.inj (Except.ok.inj scanned)
    apply scanFraction.eq_2 _
    intro more point
    cases cs with
    | nil => exact (ends '.' (by simp [show rest = _ from point])).2.1 rfl
    | cons c cs =>
        obtain ⟨rfl, _⟩ := List.cons.inj point
        exact none cs rfl

theorem scanExponentDigits_append (ends : Ends rest) {exponent : Int}
    (scanned : scanExponentDigits cs = .ok (exponent, after)) :
    scanExponentDigits (cs ++ rest) = .ok (exponent, after ++ rest) := by
  unfold scanExponentDigits at scanned
  split at scanned
  · obtain ⟨⟨digits, left⟩, found, made⟩ := bind_eq_ok.mp scanned
    obtain ⟨rfl, rfl⟩ := Prod.mk.inj (Except.ok.inj made)
    exact bind_eq_ok.mpr ⟨_, scanDigits_append ends found, rfl⟩
  · obtain ⟨⟨digits, left⟩, found, made⟩ := bind_eq_ok.mp scanned
    obtain ⟨rfl, rfl⟩ := Prod.mk.inj (Except.ok.inj made)
    exact bind_eq_ok.mpr ⟨_, scanDigits_append ends found, rfl⟩
  next minus plus =>
    obtain ⟨⟨digits, left⟩, found, made⟩ := bind_eq_ok.mp scanned
    obtain ⟨rfl, rfl⟩ := Prod.mk.inj (Except.ok.inj made)
    cases cs with
    | nil => cases found
    | cons c cs =>
        rw [List.cons_append, scanExponentDigits.eq_3]
        · exact bind_eq_ok.mpr ⟨_, scanDigits_append ends found, rfl⟩
        · rintro more same
          obtain ⟨rfl, _⟩ := List.cons.inj same
          exact minus cs rfl
        · rintro more same
          obtain ⟨rfl, _⟩ := List.cons.inj same
          exact plus cs rfl

theorem scanExponent_append (ends : Ends rest) {exponent : Option Int}
    (scanned : scanExponent cs = .ok (exponent, after)) :
    scanExponent (cs ++ rest) = .ok (exponent, after ++ rest) := by
  unfold scanExponent at scanned
  split at scanned
  · obtain ⟨⟨value, left⟩, found, made⟩ := bind_eq_ok.mp scanned
    obtain ⟨rfl, rfl⟩ := Prod.mk.inj (Except.ok.inj made)
    exact bind_eq_ok.mpr ⟨_, scanExponentDigits_append ends found, rfl⟩
  · obtain ⟨⟨value, left⟩, found, made⟩ := bind_eq_ok.mp scanned
    obtain ⟨rfl, rfl⟩ := Prod.mk.inj (Except.ok.inj made)
    exact bind_eq_ok.mpr ⟨_, scanExponentDigits_append ends found, rfl⟩
  next small large =>
    obtain ⟨rfl, rfl⟩ := Prod.mk.inj (Except.ok.inj scanned)
    refine scanExponent.eq_3 _ (fun more letter => ?_) fun more letter => ?_
    · cases cs with
      | nil => exact (ends 'e' (by simp [show rest = _ from letter])).2.2.1 rfl
      | cons c cs =>
          obtain ⟨rfl, _⟩ := List.cons.inj letter
          exact small cs rfl
    · cases cs with
      | nil => exact (ends 'E' (by simp [show rest = _ from letter])).2.2.2 rfl
      | cons c cs =>
          obtain ⟨rfl, _⟩ := List.cons.inj letter
          exact large cs rfl

/-- The parts of a numeral behind its sign. -/
def scanParts (negative : Bool) (cs : List Char) : Except Fault (Numeral × List Char) := do
  let (whole, cs) ← scanWhole cs
  let (fraction, cs) ← scanFraction cs
  let (exponent, cs) ← scanExponent cs
  return (⟨negative, whole, fraction, exponent⟩, cs)

theorem scan_minus (cs : List Char) : scan ('-' :: cs) = scanParts true cs := rfl

theorem scan_of_ne {c : Char} (differ : c ≠ '-') (cs : List Char) :
    scan (c :: cs) = scanParts false (c :: cs) := by
  unfold scan
  split
  next same =>
    split at same
    next sign => exact absurd (List.cons.inj sign).1 differ
    next =>
      obtain ⟨rfl, rfl⟩ := Prod.mk.inj same
      rfl

theorem scanParts_append (ends : Ends rest) {negative : Bool} {n : Numeral}
    (scanned : scanParts negative cs = .ok (n, after)) :
    scanParts negative (cs ++ rest) = .ok (n, after ++ rest) := by
  obtain ⟨⟨whole, left⟩, first, scanned⟩ := bind_eq_ok.mp scanned
  obtain ⟨⟨fraction, left⟩, second, scanned⟩ := bind_eq_ok.mp scanned
  obtain ⟨⟨exponent, left⟩, third, scanned⟩ := bind_eq_ok.mp scanned
  obtain ⟨rfl, rfl⟩ := Prod.mk.inj (Except.ok.inj scanned)
  refine bind_eq_ok.mpr ⟨_, scanWhole_append ends first, ?_⟩
  refine bind_eq_ok.mpr ⟨_, scanFraction_append ends second, ?_⟩
  exact bind_eq_ok.mpr ⟨_, scanExponent_append ends third, rfl⟩

/-- A numeral is read the same way in front of anything that does not go on with it. -/
theorem scan_append (ends : Ends rest) {n : Numeral} (scanned : scan cs = .ok (n, after)) :
    scan (cs ++ rest) = .ok (n, after ++ rest) := by
  cases cs with
  | nil => cases scanned
  | cons c cs =>
      by_cases sign : c = '-'
      · subst sign
        exact scanParts_append ends scanned
      · rw [scan_of_ne sign] at scanned
        rw [List.cons_append, scan_of_ne sign, ← List.cons_append]
        exact scanParts_append ends scanned

/-- A numeral begins with a sign or a digit. -/
theorem head_of_scan {n : Numeral} (scanned : scan cs = .ok (n, after)) :
    ∃ c more, cs = c :: more ∧ (c = '-' ∨ isDigit c) := by
  cases cs with
  | nil => cases scanned
  | cons c cs =>
      refine ⟨c, cs, rfl, ?_⟩
      by_cases sign : c = '-'
      · exact .inl sign
      · rw [scan_of_ne sign] at scanned
        obtain ⟨_, whole, _⟩ := bind_eq_ok.mp scanned
        obtain ⟨_, digits, _⟩ := bind_eq_ok.mp whole
        simp only [scanDigits] at digits
        split at digits
        next digit => exact .inr digit
        next => cases digits

theorem isDigit_of_mem_digitsOf {n : Nat} {c : Char} (member : c ∈ Decimal.digitsOf n) :
    isDigit c := by
  have digit := Nat.isDigit_of_mem_toDigits (by decide) (by decide) member
  simp only [Char.isDigit, Bool.and_eq_true, decide_eq_true_eq] at digit
  simp only [isDigit, Bool.and_eq_true, decide_eq_true_eq]
  exact digit

theorem digitsValue_digitsOf (n : Nat) : digitsValue (Decimal.digitsOf n) = n :=
  Nat.ofDigitChars_ten_toDigits

/-- Only zero is written with a zero in front. -/
theorem eq_zero_of_head?_digitsOf {n : Nat} (zero : (Decimal.digitsOf n).head? = some '0') :
    n = 0 := by
  induction n using Nat.strongRecOn with
  | ind n ih =>
      rw [Decimal.digitsOf] at zero
      rcases Nat.lt_or_ge n 10 with small | large
      · rw [Nat.toDigits_of_lt_base small] at zero
        have each : ∀ k < 10, [Nat.digitChar k].head? = some '0' → k = 0 := by decide
        exact each n small zero
      · rw [Nat.toDigits_of_base_le (by decide) large, List.head?_append] at zero
        have shorter := ih (n / 10) (by omega)
        cases first : (Nat.toDigits 10 (n / 10)).head? with
        | none => exact absurd (List.head?_eq_none_iff.mp first) Nat.toDigits_ne_nil
        | some c =>
            rw [first, Option.some_or] at zero
            have none := shorter (first.trans zero)
            omega

theorem scanWhole_digitsOf (n : Nat) :
    scanWhole (Decimal.digitsOf n) = .ok (Decimal.digitsOf n, []) := by
  have run : (Decimal.digitsOf n).span isDigit = (Decimal.digitsOf n, []) := by
    have all : ∀ c ∈ Decimal.digitsOf n, isDigit c := fun _ => isDigit_of_mem_digitsOf
    rw [List.span_eq_takeWhile_dropWhile, List.takeWhile_eq_self_iff.mpr all,
      List.dropWhile_eq_nil_iff.mpr all]
  have digits : scanDigits (Decimal.digitsOf n) = .ok (Decimal.digitsOf n, []) := by
    cases written : Decimal.digitsOf n with
    | nil => exact absurd written Nat.toDigits_ne_nil
    | cons c cs =>
        have digit : isDigit c := isDigit_of_mem_digitsOf (n := n) (by simp [written])
        rw [written] at run
        rw [scanDigits, if_pos digit, run]
  refine bind_eq_ok.mpr ⟨_, digits, ?_⟩
  have sound : ¬ ((Decimal.digitsOf n).head? = some '0' && (Decimal.digitsOf n).length ≠ 1) := by
    simp only [Bool.and_eq_true, decide_eq_true_eq, not_and]
    intro zero
    rw [eq_zero_of_head?_digitsOf zero]
    decide
  simp only [if_neg sound]
  rfl

end Numeral

namespace Number

/-- A number whose text is read as that number again. -/
def ReadsBack (n : Number) : Prop :=
  ∃ numeral, Numeral.scan n.chars = .ok (numeral, []) ∧ numeral.value? = some n

theorem readsBack_iff {n : Number} :
    n.ReadsBack ↔ (Numeral.scan n.chars).toOption.map (fun r => (r.1.value?, r.2)) =
      some (some n, []) := by
  rw [ReadsBack]
  cases Numeral.scan n.chars with
  | error fault => simp [Except.toOption]
  | ok r =>
      obtain ⟨numeral, rest⟩ := r
      simp only [Except.ok.injEq, Prod.mk.injEq, Except.toOption, Option.map_some,
        Option.some.injEq]
      constructor
      · rintro ⟨_, ⟨rfl, rfl⟩, value⟩
        exact ⟨value, rfl⟩
      · rintro ⟨value, rfl⟩
        exact ⟨numeral, ⟨rfl, rfl⟩, value⟩

instance (n : Number) : Decidable n.ReadsBack := decidable_of_iff' _ readsBack_iff

theorem readsBack_integer (i : Int)
    (fits : -9223372036854775808 ≤ i ∧ i < 18446744073709551616) :
    (integer i fits).ReadsBack := by
  refine ⟨⟨decide (i < 0), Decimal.digitsOf i.natAbs, [], none⟩, ?_, ?_⟩
  · have parts : ∀ negative, Numeral.scanParts negative (Decimal.digitsOf i.natAbs) =
        .ok (⟨negative, Decimal.digitsOf i.natAbs, [], none⟩, []) := fun negative =>
      bind_eq_ok.mpr ⟨_, Numeral.scanWhole_digitsOf _, rfl⟩
    simp only [chars, integerText]
    split
    next below => simp [Numeral.scan_minus, parts, below]
    next above =>
      cases written : Decimal.digitsOf i.natAbs with
      | nil => exact absurd written Nat.toDigits_ne_nil
      | cons c cs =>
          have digit : Numeral.isDigit c :=
            Numeral.isDigit_of_mem_digitsOf (n := i.natAbs) (by simp [written])
          have plain : c ≠ '-' := by
            rintro rfl
            exact absurd digit (by decide)
          rw [Numeral.scan_of_ne plain, ← written, parts]
          simp [above]
  · have signed : (if decide (i < 0) = true then -(i.natAbs : Int) else i.natAbs) = i := by
      split
      next below =>
        have below : i < 0 := of_decide_eq_true below
        omega
      next above =>
        have above : 0 ≤ i := by simpa using above
        omega
    have sign : (decide (i < 0) && decide (i.natAbs = 0)) = false := by
      simp only [Bool.and_eq_false_iff, decide_eq_false_iff_not]
      omega
    simp only [Numeral.value?, Numeral.digitsValue_digitsOf, signed, sign]
    simp [ofInt?, fits]

/-- Such a number is read where something else follows it. -/
theorem ReadsBack.read_append {n : Number} (h : n.ReadsBack) {rest : List Char}
    (ends : Numeral.Ends rest) : Numeral.read (n.chars ++ rest) = (⟨.ok n, .ok ()⟩, rest) := by
  obtain ⟨numeral, scanned, value⟩ := h
  rw [Numeral.read, Numeral.scan_append ends scanned]
  simp only [value, List.nil_append]

end Number

end Etl.Json
