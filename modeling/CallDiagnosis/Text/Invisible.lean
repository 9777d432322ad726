import CallDiagnosis.Text.Invisible.Joining
import CallDiagnosis.Text.Invisible.Vacant

/-
  Characters without a form of their own.

  Key definitions include:
    * `CallDiagnosis.Invisible.blank`
    * `CallDiagnosis.Invisible.Listed`
    * `CallDiagnosis.Invisible.Holds`

  A reader does not see a blank other than the plain one, a
  control or format character, or a filler.  Nor can a mark
  that joins the character before it, or a number that
  stands for no character, be read by itself.
-/

------------------------------------------------------------
-- Blanks
------------------------------------------------------------

namespace CallDiagnosis

namespace Invisible

/-
  The blanks other than the plain one, the control and
  format characters, and the fillers of a syllable block, by
  the first and the last number of each range, in order.
-/
def blank : List (Nat × Nat) :=
  [
    (0x0, 0x1F), (0x7F, 0xA0), (0xAD, 0xAD), (0x600, 0x605),
    (0x61C, 0x61C), (0x6DD, 0x6DD), (0x70F, 0x70F),
    (0x890, 0x891), (0x8E2, 0x8E2), (0x115F, 0x1160),
    (0x1680, 0x1680), (0x180E, 0x180E), (0x2000, 0x200F),
    (0x2028, 0x202F), (0x205F, 0x2064), (0x2066, 0x206F),
    (0x3000, 0x3000), (0x3164, 0x3164), (0xFEFF, 0xFEFF),
    (0xFFA0, 0xFFA0), (0xFFF9, 0xFFFB), (0x110BD, 0x110BD),
    (0x110CD, 0x110CD), (0x13430, 0x1343F), (0x1BCA0, 0x1BCA3),
    (0x1D173, 0x1D17A), (0xE0001, 0xE0001), (0xE0020, 0xE007F)
  ]

------------------------------------------------------------
-- Invisible Characters
------------------------------------------------------------

/- The number of a character lies in a listed range. -/
def Listed
    (c : Char)
    (ranges : List (Nat × Nat)) :
    Prop :=
  ∃ r ∈ ranges, r.1 ≤ c.toNat ∧ c.toNat ≤ r.2

instance
    (c : Char)
    (ranges : List (Nat × Nat)) :
    Decidable (Listed c ranges) := by
  unfold Listed
  infer_instance

/- A character has no form of its own. -/
def Holds
    (c : Char) :
    Prop :=
  Listed c blank ∨ Listed c joining ∨ Listed c vacant

instance
    (c : Char) :
    Decidable (Holds c) := by
  unfold Holds
  infer_instance

end Invisible

end CallDiagnosis
