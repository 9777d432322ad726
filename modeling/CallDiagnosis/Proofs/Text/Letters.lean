import CallDiagnosis.Text.Folded
import Mathlib.Data.List.Forall2

/-
  Letters that are the same up to case.

  Key definitions include:
    * `CallDiagnosis.SameLetter`
    * `CallDiagnosis.SameLetters`

  Key theorems include:
    * `CallDiagnosis.toLower_eq_toLower_iff`
    * `CallDiagnosis.Folded.same_iff_sameLetters`

  A capital and a small letter of ASCII are the same letter
  if they stand at the same place of the alphabet.  A text is
  compared with another one letter by letter, and it makes no
  difference whether both texts are folded for it or neither.
-/

------------------------------------------------------------
-- Letters
------------------------------------------------------------

namespace CallDiagnosis

/- A capital and a small letter stand at the same place. -/
def CapitalOf
    (capital small : Char) :
    Prop :=
  ∃ place < 26,
    capital.toNat = 'A'.toNat + place ∧
    small.toNat = 'a'.toNat + place

/- Two characters are equal but for the case of a letter. -/
def SameLetter
    (c d : Char) :
    Prop :=
  c = d ∨ CapitalOf c d ∨ CapitalOf d c

/- Two texts are equal, letter by letter, but for case. -/
def SameLetters
    (s t : String) :
    Prop :=
  List.Forall₂ SameLetter s.toList t.toList

/- A capital is folded to the letter at its place. -/
theorem toNat_toLower
    (c : Char) :
    c.toLower.toNat =
      if 65 ≤ c.toNat ∧ c.toNat ≤ 90 then
        c.toNat + 32
      else
        c.toNat := by
  have hRange :
      (c.val ≥ 'A'.val ∧ c.val ≤ 'Z'.val) ↔
        65 ≤ c.toNat ∧ c.toNat ≤ 90 :=
    Iff.rfl
  unfold Char.toLower
  by_cases hCapital : 65 ≤ c.toNat ∧ c.toNat ≤ 90
  · rw [dif_pos (hRange.mpr hCapital), if_pos hCapital]
    change (c.val + 32).toNat = c.val.toNat + 32
    rw [UInt32.toNat_add]
    apply Nat.mod_eq_of_lt
    have hBound : c.val.toNat ≤ 90 := hCapital.2
    change c.val.toNat + 32 < 2 ^ 32
    omega
  · rw [dif_neg (fun hRanged => hCapital (hRange.mp hRanged)),
      if_neg hCapital]

/- Characters fold to one letter if they are the same letter. -/
theorem toLower_eq_toLower_iff
    (c d : Char) :
    c.toLower = d.toLower ↔ SameLetter c d := by
  unfold SameLetter CapitalOf
  rw [← Char.toNat_inj, ← Char.toNat_inj, toNat_toLower,
    toNat_toLower]
  change
    _ ↔
      c.toNat = d.toNat ∨
      (∃ place < 26,
        c.toNat = 65 + place ∧ d.toNat = 97 + place) ∨
      (∃ place < 26,
        d.toNat = 65 + place ∧ c.toNat = 97 + place)
  constructor
  · intro hFolded
    by_cases hEqual : c.toNat = d.toNat
    · exact .inl hEqual
    · by_cases hCapital : 65 ≤ c.toNat ∧ c.toNat ≤ 90
      · refine .inr (.inl ⟨c.toNat - 65, ?_⟩)
        rw [if_pos hCapital] at hFolded
        split at hFolded <;> omega
      · refine .inr (.inr ⟨d.toNat - 65, ?_⟩)
        rw [if_neg hCapital] at hFolded
        split at hFolded <;> omega
  · rintro (hEqual | ⟨place, hPlace, hc, hd⟩ |
      ⟨place, hPlace, hd, hc⟩)
    · rw [hEqual]
    · rw [if_pos (by omega), if_neg (by omega)]
      omega
    · rw [if_neg (by omega), if_pos (by omega)]
      omega

end CallDiagnosis

------------------------------------------------------------
-- Texts
------------------------------------------------------------

namespace CallDiagnosis

namespace Folded

/- Folded texts are equal if the texts are but for case. -/
theorem same_iff_sameLetters
    (s t : String) :
    Same s t ↔ SameLetters s t := by
  unfold Same lower SameLetters
  rw [String.ofList_inj, ← List.forall₂_eq_eq_eq,
    List.forall₂_map_left_iff, List.forall₂_map_right_iff]
  constructor
  · exact List.Forall₂.imp
      (fun c d => (toLower_eq_toLower_iff c d).mp)
  · exact List.Forall₂.imp
      (fun c d => (toLower_eq_toLower_iff c d).mpr)

/- Against small letters only one text needs folding. -/
theorem lower_eq_iff_sameLetters
    (s word : String)
    (hSmall : lower word = word) :
    lower s = word ↔ SameLetters s word := by
  rw [← same_iff_sameLetters, Same, hSmall]

end Folded

end CallDiagnosis
