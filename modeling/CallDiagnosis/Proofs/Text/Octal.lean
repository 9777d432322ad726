import CallDiagnosis.Text.Octal
import Mathlib.Algebra.Group.Nat.Defs

/-
  What an octal numeral tells.

  Key definitions include:
    * `CallDiagnosis.Octal.IsNumeral`

  Key theorems include:
    * `CallDiagnosis.Octal.isNumeral_padded`
    * `CallDiagnosis.Octal.IsNumeral.unique`

  A numeral is told from its reader's side: it has digits
  below eight only, it reads as the number, and it is neither
  narrower than asked for nor wider than it has to be.  A
  number has just one numeral of this kind.
-/

------------------------------------------------------------
-- Numerals
------------------------------------------------------------

namespace CallDiagnosis

namespace Octal

/- A text is the octal numeral of a number at a least width. -/
structure IsNumeral
    (width n : Nat)
    (numeral : String) :
    Prop where
  digits : ∀ c ∈ numeral.toList, '0' ≤ c ∧ c ≤ '7'
  reads : Nat.ofDigitChars 8 numeral.toList 0 = n
  wide : width ≤ numeral.toList.length
  short :
    ∀ count, width ≤ count → n < 8 ^ count →
      numeral.toList.length ≤ count

/- The digits to base eight are those below eight. -/
theorem octal_of_mem_toDigits
    (n : Nat) :
    ∀ c ∈ Nat.toDigits 8 n, '0' ≤ c ∧ c ≤ '7' := by
  have hDigit :
      ∀ d < 8,
        '0' ≤ Nat.digitChar d ∧ Nat.digitChar d ≤ '7' := by
    decide
  induction n using Nat.strongRecOn with
  | ind n ih =>
      intro c hMember
      rw [Nat.toDigits_eq_if (by omega)] at hMember
      split at hMember
      · rw [List.mem_singleton] at hMember
        rw [hMember]
        apply hDigit
        omega
      · rcases List.mem_append.mp hMember with hFront | hLast
        · exact ih (n / 8) (by omega) c hFront
        · rw [List.mem_singleton] at hLast
          rw [hLast]
          apply hDigit
          omega

/- Zeros in front do not change what a numeral reads as. -/
theorem ofDigitChars_leftpad
    (width n : Nat) :
    Nat.ofDigitChars 8
        (List.leftpad width '0' (Nat.toDigits 8 n)) 0 =
      n := by
  rw [List.leftpad, Nat.ofDigitChars_append,
    Nat.ofDigitChars_replicate_zero, Nat.mul_zero]
  exact Nat.ofDigitChars_toDigits (by omega) (by omega)

/- A number is written by its numeral. -/
theorem isNumeral_padded
    (width n : Nat)
    (hWidth : 0 < width) :
    IsNumeral width n (padded width n) := by
  have hText :
      (padded width n).toList =
        List.leftpad width '0' (Nat.toDigits 8 n) := by
    simp [padded]
  constructor
  · intro c hMember
    rw [hText, List.leftpad] at hMember
    rcases List.mem_append.mp hMember with hZero | hDigit
    · rw [List.eq_of_mem_replicate hZero]
      decide
    · exact octal_of_mem_toDigits n c hDigit
  · rw [hText]
    exact ofDigitChars_leftpad width n
  · rw [hText, List.length_leftpad]
    exact Nat.le_max_left _ _
  · intro count hCount hBound
    have hDigits : (Nat.toDigits 8 n).length ≤ count :=
      (Nat.length_toDigits_le_iff (by omega)
        (by omega)).mpr hBound
    rw [hText, List.length_leftpad]
    exact Nat.max_le.mpr ⟨hCount, hDigits⟩

end Octal

end CallDiagnosis

------------------------------------------------------------
-- One Numeral for Each Number
------------------------------------------------------------

namespace CallDiagnosis

namespace Octal

/- The characters between `0` and `7` have numbers in a row. -/
theorem toNat_bounds
    {c : Char}
    (hDigit : '0' ≤ c ∧ c ≤ '7') :
    48 ≤ c.toNat ∧ c.toNat ≤ 55 :=
  hDigit

/- Some digits read as a number with no more digits. -/
theorem ofDigitChars_lt
    (digits : List Char)
    (base : Nat)
    (hDigits : ∀ c ∈ digits, '0' ≤ c ∧ c ≤ '7') :
    Nat.ofDigitChars 8 digits base <
      8 ^ digits.length * (base + 1) := by
  induction digits generalizing base with
  | nil => simp
  | cons c rest ih =>
      rw [List.forall_mem_cons] at hDigits
      have hBounds := toNat_bounds hDigits.1
      rw [Nat.ofDigitChars_cons]
      calc
        Nat.ofDigitChars 8 rest
              (8 * base + (c.toNat - '0'.toNat)) <
            8 ^ rest.length *
              (8 * base + (c.toNat - '0'.toNat) + 1) :=
          ih _ hDigits.2
        _ ≤ 8 ^ rest.length * (8 * (base + 1)) := by
          apply Nat.mul_le_mul_left
          change 8 * base + (c.toNat - 48) + 1 ≤ _
          omega
        _ = 8 ^ (c :: rest).length * (base + 1) := by
          rw [List.length_cons, Nat.pow_succ, Nat.mul_assoc]

/- As many digits that read the same are the same digits. -/
theorem eq_of_ofDigitChars_eq
    (first second : List Char)
    (a b : Nat)
    (hLength : first.length = second.length)
    (hFirst : ∀ c ∈ first, '0' ≤ c ∧ c ≤ '7')
    (hSecond : ∀ c ∈ second, '0' ≤ c ∧ c ≤ '7')
    (hReads :
      Nat.ofDigitChars 8 first a =
        Nat.ofDigitChars 8 second b) :
    a = b ∧ first = second := by
  induction first generalizing second a b with
  | nil =>
      rw [List.length_nil, eq_comm,
        List.length_eq_zero_iff] at hLength
      subst hLength
      exact ⟨hReads, rfl⟩
  | cons c rest ih =>
      cases second with
      | nil => simp at hLength
      | cons d others =>
          rw [List.forall_mem_cons] at hFirst hSecond
          rw [Nat.ofDigitChars_cons,
            Nat.ofDigitChars_cons] at hReads
          rcases
              ih others _ _ (by simpa using hLength)
                hFirst.2 hSecond.2 hReads with
            ⟨hHead, hRest⟩
          have hc := toNat_bounds hFirst.1
          have hd := toNat_bounds hSecond.1
          change
            8 * a + (c.toNat - 48) =
              8 * b + (d.toNat - 48) at hHead
          have hDigit : c = d := by
            apply Char.toNat_inj.mp
            omega
          refine ⟨by omega, ?_⟩
          rw [hDigit, hRest]

/- A numeral is no longer than another one of its number. -/
theorem IsNumeral.length_le
    {width n : Nat}
    {first second : String}
    (hFirst : IsNumeral width n first)
    (hSecond : IsNumeral width n second) :
    first.toList.length ≤ second.toList.length := by
  apply hFirst.short _ hSecond.wide
  have hBound := ofDigitChars_lt _ 0 hSecond.digits
  rwa [hSecond.reads, Nat.zero_add, Nat.mul_one] at hBound

/- A number has one numeral only. -/
theorem IsNumeral.unique
    {width n : Nat}
    {first second : String}
    (hFirst : IsNumeral width n first)
    (hSecond : IsNumeral width n second) :
    first = second := by
  have hLength :
      first.toList.length = second.toList.length :=
    Nat.le_antisymm (hFirst.length_le hSecond)
      (hSecond.length_le hFirst)
  have hReads :
      Nat.ofDigitChars 8 first.toList 0 =
        Nat.ofDigitChars 8 second.toList 0 :=
    hFirst.reads.trans hSecond.reads.symm
  apply String.toList_inj.mp
  exact
    (eq_of_ofDigitChars_eq _ _ 0 0 hLength hFirst.digits
      hSecond.digits hReads).2

end Octal

end CallDiagnosis
