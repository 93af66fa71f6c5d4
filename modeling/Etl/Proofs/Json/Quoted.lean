import Mathlib.Data.Nat.Basic
import Etl.Json.Quoted

/-!
Quoted text is read back. Every character is written as one piece, either itself or an escape, and
the piece joins to that character again, whatever follows it.
-/

namespace Etl.Json.Quoted

theorem hexValue?_hexDigit (n : Nat) : hexValue? (hexDigit n) = some (n % 16) := by
  have each : ∀ k < 16, hexValue? (Nat.digitChar k) = some k := by decide
  exact each _ (Nat.mod_lt n (by decide))

/-- The number of a control character is read back. -/
theorem scanUnit_control {n : Nat} (control : n < 0x20) (cs : List Char) :
    scanUnit ('0' :: '0' :: hexDigit (n / 16) :: hexDigit n :: cs) = .ok (n, cs) := by
  have long : ¬ (('0' :: '0' :: hexDigit (n / 16) :: hexDigit n :: cs).take 4).foldl
      (fun n c => n + c.utf8Size) 0 < 4 := by
    have third := (hexDigit (n / 16)).utf8Size_pos
    have fourth := (hexDigit n).utf8Size_pos
    have zero : '0'.utf8Size = 1 := by decide
    simp only [List.take_succ_cons, List.take_zero, List.foldl_cons, List.foldl_nil, zero]
    omega
  have zero : hexValue? '0' = some 0 := by decide
  have value : fourHex? '0' '0' (hexDigit (n / 16)) (hexDigit n) = some n := by
    simp only [fourHex?, zero, hexValue?_hexDigit, Option.bind_eq_bind, Option.bind_some,
      Option.pure_def, Option.some.injEq]
    omega
  rw [scanUnit, if_neg long]
  simp only [value]

/-- A character is written by a letter, by its number, or as it stands. -/
theorem encodeChar_cases (c : Char) :
    (∃ letter, letter ≠ 'u' ∧ escapedBy? letter = some c ∧ encodeChar c = ['\x5c', letter]) ∨
      (c.toNat < 0x20 ∧ encodeChar c =
        ['\x5c', 'u', '0', '0', hexDigit (c.toNat / 16), hexDigit c.toNat]) ∨
      (c ≠ '\x22' ∧ c ≠ '\x5c' ∧ ¬ c.toNat < 0x20 ∧ encodeChar c = [c]) := by
  by_cases short : c ∈ ['\x22', '\x5c', '\x08', '\x0c', '\n', '\r', '\t']
  · left
    simp only [List.mem_cons, List.not_mem_nil, or_false] at short
    rcases short with rfl | rfl | rfl | rfl | rfl | rfl | rfl
    all_goals exact ⟨_, by decide, by decide, rfl⟩
  · right
    simp only [List.mem_cons, List.not_mem_nil, or_false, not_or] at short
    obtain ⟨quote, bar, back, feed, line, carriage, tab⟩ := short
    by_cases control : c.toNat < 0x20
    · exact .inl ⟨control, by simp [encodeChar, quote, bar, back, feed, line, carriage, tab,
        control]⟩
    · exact .inr ⟨quote, bar, control, by simp [encodeChar, quote, bar, back, feed, line, carriage,
        tab, control]⟩

/-- One written character is one piece that joins to it. -/
theorem scan_encodeChar (c : Char) :
    ∃ piece, (∀ ending pieces, join ending (piece :: pieces) = (join ending pieces).map (c :: ·)) ∧
      ∀ fuel cs, scan (fuel + 1) (encodeChar c ++ cs) =
        (piece :: (scan fuel cs).1, (scan fuel cs).2) := by
  have mark : '\x5c' ≠ '\x22' := by decide
  rcases encodeChar_cases c with ⟨letter, differ, stands, written⟩ | ⟨control, written⟩ |
    ⟨quote, bar, plain, written⟩
  · refine ⟨.char c, fun _ _ => rfl, fun fuel cs => ?_⟩
    rw [written, List.cons_append, List.singleton_append, scan, if_neg mark, if_pos rfl,
      scanEscape.eq_3 letter cs differ]
    simp only [stands]
  · refine ⟨.unit c.toNat, fun ending pieces => ?_, fun fuel cs => ?_⟩
    · have low : isLowSurrogate c.toNat = false := by
        simp only [isLowSurrogate, Bool.and_eq_false_iff, decide_eq_false_iff_not]
        omega
      have high : isHighSurrogate c.toNat = false := by
        simp only [isHighSurrogate, Bool.and_eq_false_iff, decide_eq_false_iff_not]
        omega
      rw [join.eq_def]
      simp only [low, high, Bool.false_eq_true, if_false, Char.ofNat_toNat]
    · have scanned := scanUnit_control control cs
      simp only [written, List.cons_append, List.nil_append]
      rw [scan, if_neg mark, if_pos rfl, scanEscape, scanned]
      rfl
  · refine ⟨.char c, fun _ _ => rfl, fun fuel cs => ?_⟩
    rw [written, List.singleton_append, scan, if_neg quote, if_neg bar, if_neg plain]

theorem encodeChar_ne_nil (c : Char) : encodeChar c ≠ [] := by
  rcases encodeChar_cases c with ⟨letter, _, _, written⟩ | ⟨_, written⟩ | ⟨_, _, _, written⟩
  all_goals simp [written]

/-- A written text is scanned up to its closing quote, and its pieces join to it. -/
theorem scan_encode {cs : List Char} {fuel : Nat} (enough : (cs.flatMap encodeChar).length < fuel)
    (rest : List Char) :
    ∃ pieces, scan fuel (cs.flatMap encodeChar ++ '\x22' :: rest) = (pieces, .ok (), rest) ∧
      join (.ok ()) pieces = .ok cs := by
  induction cs generalizing fuel with
  | nil =>
      cases fuel with
      | zero => exact absurd enough (Nat.not_lt_zero _)
      | succ fuel => exact ⟨[], by simp [scan], rfl⟩
  | cons c cs ih =>
      cases fuel with
      | zero => exact absurd enough (Nat.not_lt_zero _)
      | succ fuel =>
          have some := List.length_pos_iff.mpr (encodeChar_ne_nil c)
          rw [List.flatMap_cons, List.length_append] at enough
          obtain ⟨piece, joins, scans⟩ := scan_encodeChar c
          have less : (cs.flatMap encodeChar).length < fuel := by omega
          obtain ⟨pieces, scanned, joined⟩ := ih less
          refine ⟨piece :: pieces, ?_, ?_⟩
          · rw [List.flatMap_cons, List.append_assoc, scans, scanned]
          · rw [joins, joined]
            rfl

/-- What is written between quotes is read back, and reading stops behind the closing quote. -/
theorem read_encode (s : String) (rest : List Char) :
    read (s.toList.flatMap encodeChar ++ '\x22' :: rest) = (⟨.ok s, .ok ()⟩, rest) := by
  have enough : (s.toList.flatMap encodeChar).length <
      (s.toList.flatMap encodeChar ++ '\x22' :: rest).length + 1 := by
    rw [List.length_append]
    omega
  obtain ⟨pieces, scanned, joined⟩ := scan_encode enough rest
  rw [read, scanned]
  simp only [joined, Except.map, String.ofList_toList]

end Etl.Json.Quoted
