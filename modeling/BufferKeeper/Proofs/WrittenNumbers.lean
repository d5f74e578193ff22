import BufferKeeper.Proofs.Numerals
import BufferKeeper.Toml.Document

/-!
# Written numbers

A whole number at the end of a line is read as that number and as nothing else: it begins like a day, a
time or a float, but what would have to follow its digits there is neither a digit nor the end of the
line.
-/

namespace BufferKeeper.Toml

open Text

/-! ## 1. Digits at the end of a line -/

section Digits

variable {digits : List Char} (hdigits : ∀ c ∈ digits, isDigitIn 10 c) (rest : List Char)

include hdigits

-- A fixed number of digits ends within the run of digits or with it.
theorem behind_readFixed {count least largest n : Nat} {t : List Char}
    (hread : readFixed count least largest (digits ++ '\n' :: rest) = some (n, t)) :
    ∃ c t', t = c :: t' ∧ (isDigitIn 10 c ∨ c = '\n') := by
  unfold readFixed at hread
  split at hread
  · next m hm =>
    split at hread
    · next hcount =>
      cases hread
      have hall : ∀ c ∈ (digits ++ '\n' :: rest).take count, isDigitIn 10 c := by
        unfold ofDigits? at hm
        split at hm
        · next hdigits' => exact List.all_eq_true.mp hdigits'.2
        · cases hm
      have hle : count ≤ digits.length := by
        refine Nat.le_of_not_lt fun hlt => ?_
        have hmem : '\n' ∈ (digits ++ '\n' :: rest).take count := by
          rw [List.mem_take_iff_getElem]
          exact ⟨digits.length, by simp; omega, by simp⟩
        exact absurd (hall '\n' hmem) (by decide)
      rw [List.drop_append_of_le_length hle]
      cases hdrop : digits.drop count with
      | nil => exact ⟨'\n', rest, rfl, .inr rfl⟩
      | cons c t =>
        refine ⟨c, t ++ '\n' :: rest, rfl, .inl (hdigits c ?_)⟩
        apply List.mem_of_mem_drop
        rw [hdrop]
        exact List.mem_cons_self
    · cases hread
  · cases hread

theorem skipChar_behind_readFixed {count least largest n : Nat} {t : List Char}
    (hread : readFixed count least largest (digits ++ '\n' :: rest) = some (n, t)) {mark : Char}
    (hmark : isDigitIn 10 mark = false) (hend : mark ≠ '\n') : skipChar mark t = none := by
  obtain ⟨c, t', rfl, hc⟩ := behind_readFixed hdigits rest hread
  apply if_neg
  rintro rfl
  rcases hc with hc | hc
  · rw [hmark] at hc
    cases hc
  · exact hend hc

theorem readDate_digits : readDate (digits ++ '\n' :: rest) = none := by
  unfold readDate
  cases hread : readFixed 4 0 9999 (digits ++ '\n' :: rest) with
  | none => rfl
  | some found =>
    show ((skipChar '-' found.2).bind fun s => _) = none
    rw [skipChar_behind_readFixed hdigits rest hread (by decide) (by decide)]
    rfl

theorem readTime_digits : readTime (digits ++ '\n' :: rest) = none := by
  unfold readTime
  cases hread : readFixed 2 0 23 (digits ++ '\n' :: rest) with
  | none => rfl
  | some found =>
    show ((skipChar ':' found.2).bind fun s => _) = none
    rw [skipChar_behind_readFixed hdigits rest hread (by decide) (by decide)]
    rfl

theorem readMoreDigits_digits :
    readMoreDigits 10 (digits ++ '\n' :: rest) = some (digits, '\n' :: rest) := by
  induction digits with
  | nil =>
    rw [List.nil_append, readMoreDigits.eq_def]
    rfl
  | cons c digits ih =>
    rw [List.forall_mem_cons] at hdigits
    rw [List.cons_append, readMoreDigits.eq_def]
    dsimp only
    rw [if_pos hdigits.1, ih hdigits.2]
    rfl

end Digits

theorem readWhole_toDigits (n : Nat) (rest : List Char) :
    readWhole (Nat.toDigits 10 n ++ '\n' :: rest) = some (Nat.toDigits 10 n, '\n' :: rest) := by
  by_cases hzero : n = 0
  · rw [hzero]
    rfl
  · have hlead := head?_toDigits_ne_zero (show 1 < 10 by decide) (by decide) hzero
    have hdigits := isDigit_of_mem_toDigits n
    cases htext : Nat.toDigits 10 n with
    | nil => exact absurd htext Nat.toDigits_ne_nil
    | cons c digits =>
      rw [htext] at hlead hdigits
      rw [List.forall_mem_cons] at hdigits
      have hc : c ≠ '0' := fun h => hlead (congrArg some h)
      have hread : readWhole (c :: (digits ++ '\n' :: rest)) =
          readDigits 10 (c :: (digits ++ '\n' :: rest)) := by
        unfold readWhole
        split
        · next heq => exact absurd (List.cons.inj heq).1 hc
        · rfl
      rw [List.cons_append, hread, readDigits, if_pos hdigits.1, readMoreDigits_digits hdigits.2]
      rfl

/-! ## 2. Numbers at the end of a line -/

def numberLine (i : Int) (rest : List Char) : List Char :=
  (signedDecimal i).toList ++ '\n' :: rest

theorem numberLine_ofNat (n : Nat) (rest : List Char) :
    numberLine (.ofNat n) rest = Nat.toDigits 10 n ++ '\n' :: rest := by
  show (decimal n).toList ++ _ = _
  rw [decimal, String.toList_ofList]

theorem numberLine_negSucc (n : Nat) (rest : List Char) :
    numberLine (.negSucc n) rest = '-' :: (Nat.toDigits 10 (n + 1) ++ '\n' :: rest) := by
  show ("-" ++ decimal (n + 1)).toList ++ _ = _
  rw [String.toList_append, decimal, String.toList_ofList, String.toList_ofList]
  rfl

theorem head_toDigits (n : Nat) (s : List Char) :
    ∃ c t, Nat.toDigits 10 n ++ s = c :: t ∧ isDigitIn 10 c := by
  have hdigits := isDigit_of_mem_toDigits n
  cases htext : Nat.toDigits 10 n with
  | nil => exact absurd htext Nat.toDigits_ne_nil
  | cons c digits =>
    rw [htext] at hdigits
    exact ⟨c, digits ++ s, rfl, hdigits c List.mem_cons_self⟩

-- The first character is a digit or the sign.
theorem head_numberLine (i : Int) (rest : List Char) :
    ∃ c t, numberLine i rest = c :: t ∧ (isDigitIn 10 c ∨ c = '-') := by
  cases i with
  | ofNat n =>
    obtain ⟨c, t, htext, hc⟩ := head_toDigits n ('\n' :: rest)
    exact ⟨c, t, (numberLine_ofNat n rest).trans htext, .inl hc⟩
  | negSucc n => exact ⟨'-', _, numberLine_negSucc n rest, .inr rfl⟩

theorem readSign_numberLine (i : Int) (rest : List Char) :
    readSign (numberLine i rest) = (decide (i < 0), Nat.toDigits 10 i.natAbs ++ '\n' :: rest) := by
  cases i with
  | ofNat n =>
    obtain ⟨c, t, htext, hc⟩ := head_toDigits n ('\n' :: rest)
    have hsign : ¬Int.ofNat n < 0 := Int.not_lt.mpr (Int.natCast_nonneg n)
    rw [numberLine_ofNat, decide_eq_false hsign]
    show readSign (Nat.toDigits 10 n ++ '\n' :: rest) = (false, Nat.toDigits 10 n ++ '\n' :: rest)
    rw [htext]
    unfold readSign
    split
    · next heq =>
      cases heq
      exact absurd hc (by decide)
    · next heq =>
      cases heq
      exact absurd hc (by decide)
    · rfl
  | negSucc n =>
    rw [numberLine_negSucc, decide_eq_true (Int.negSucc_lt_zero n)]
    rfl

theorem readDateTime_numberLine (i : Int) (rest : List Char) :
    readDateTime (numberLine i rest) = none := by
  have hnone : readDate (numberLine i rest) = none ∧ readTime (numberLine i rest) = none := by
    cases i with
    | ofNat n =>
      rw [numberLine_ofNat]
      exact ⟨readDate_digits (isDigit_of_mem_toDigits n) rest,
        readTime_digits (isDigit_of_mem_toDigits n) rest⟩
    | negSucc n =>
      rw [numberLine_negSucc]
      exact ⟨rfl, rfl⟩
  rw [readDateTime, hnone.1, hnone.2]
  rfl

-- Neither a point nor an exponent follows the digits.
theorem readDigitFloat_numberLine (i : Int) (rest : List Char) :
    readDigitFloat (numberLine i rest) = none := by
  unfold readDigitFloat
  rw [readSign_numberLine]
  dsimp only
  rw [readWhole_toDigits]
  rfl

theorem readNamedFloat_numberLine (i : Int) (rest : List Char) :
    readNamedFloat (numberLine i rest) = none := by
  obtain ⟨c, t, htext, hc⟩ := head_toDigits i.natAbs ('\n' :: rest)
  have hletter {letter : Char} (h : isDigitIn 10 letter = false) (letters : List Char) :
      skipChars (letter :: letters) (Nat.toDigits 10 i.natAbs ++ '\n' :: rest) = none := by
    have hne : c ≠ letter := by
      rintro rfl
      rw [h] at hc
      cases hc
    rw [htext, skipChars, skipChar, if_neg hne]
    rfl
  unfold readNamedFloat
  rw [readSign_numberLine]
  dsimp only
  rw [hletter (by decide), hletter (by decide)]
  rfl

theorem readDecimal_numberLine {i : Int} (hi : int64? i = some i) (rest : List Char) :
    readDecimal (numberLine i rest) = some (i, '\n' :: rest) := by
  have hvalue : (if decide (i < 0) = true then -Int.ofNat i.natAbs else Int.ofNat i.natAbs) = i := by
    by_cases hneg : i < 0
    · rw [if_pos (decide_eq_true hneg)]
      show -(i.natAbs : Int) = i
      omega
    · rw [if_neg (by simpa using hneg)]
      show (i.natAbs : Int) = i
      omega
  unfold readDecimal
  rw [readSign_numberLine]
  dsimp only
  rw [readWhole_toDigits]
  show ((int64? (if decide (i < 0) = true then
      -Int.ofNat (valueOf 10 (Nat.toDigits 10 i.natAbs)) else
      Int.ofNat (valueOf 10 (Nat.toDigits 10 i.natAbs)))).bind fun value =>
    some (value, '\n' :: rest)) = _
  rw [valueOf_toDigits (by decide) (by decide), hvalue, hi, Option.bind_some]

-- A base mark would have to stand behind the first character.
theorem second_numberLine {i : Int} {rest t : List Char} {c d : Char}
    (h : numberLine i rest = c :: d :: t) : isDigitIn 10 d ∨ d = '\n' := by
  cases i with
  | ofNat n =>
    have hdigits := isDigit_of_mem_toDigits n
    rw [numberLine_ofNat] at h
    cases htext : Nat.toDigits 10 n with
    | nil => exact absurd htext Nat.toDigits_ne_nil
    | cons first digits =>
      rw [htext] at h hdigits
      cases digits with
      | nil =>
        cases h
        exact .inr rfl
      | cons second digits =>
        cases h
        exact .inl (hdigits _ (List.mem_cons_of_mem _ List.mem_cons_self))
  | negSucc n =>
    obtain ⟨first, digits, htext, hfirst⟩ := head_toDigits (n + 1) ('\n' :: rest)
    rw [numberLine_negSucc, htext] at h
    cases h
    exact .inl hfirst

theorem readInteger_numberLine {i : Int} (hi : int64? i = some i) (rest : List Char) :
    readInteger (numberLine i rest) = some (i, '\n' :: rest) := by
  unfold readInteger
  split
  · next heq => exact absurd (second_numberLine heq) (by decide)
  · next heq => exact absurd (second_numberLine heq) (by decide)
  · next heq => exact absurd (second_numberLine heq) (by decide)
  · exact readDecimal_numberLine hi rest

theorem readScalar_numberLine {i : Int} (hi : int64? i = some i) (rest : List Char) :
    readScalar (numberLine i rest) = some (.integer i, '\n' :: rest) := by
  obtain ⟨c, t, htext, hc⟩ := head_numberLine i rest
  have hstring : readString (numberLine i rest) = none := by
    have hmark : ¬(c = quotationMark ∨ c = apostrophe) := by
      rintro (rfl | rfl)
      · exact absurd hc (by decide)
      · exact absurd hc (by decide)
    rw [htext, readString, if_neg hmark]
  have hword {letter : Char} (h : ¬(isDigitIn 10 letter ∨ letter = '-')) (letters : List Char) :
      skipChars (letter :: letters) (numberLine i rest) = none := by
    have hne : c ≠ letter := by
      rintro rfl
      exact h hc
    rw [htext, skipChars, skipChar, if_neg hne]
    rfl
  unfold readScalar
  rw [hstring, hword (by decide), hword (by decide), readDateTime_numberLine,
    readDigitFloat_numberLine, readNamedFloat_numberLine, readInteger_numberLine hi]
  rfl

theorem int64?_toInt (n : Int32) : int64? n.toInt = some n.toInt := by
  have hleast := Int32.le_toInt n
  have hlargest := Int32.toInt_lt n
  rw [int64?, if_pos (by omega)]

end BufferKeeper.Toml
