/-
  Text compared without regard to letter case.

  Key definitions include:
    * `CallDiagnosis.Folded.lower`
    * `CallDiagnosis.Folded.Same`

  Only the twenty-six letters of ASCII have a case here.
  Every other character, accented letters included, is equal
  to itself alone.
-/

------------------------------------------------------------
-- Case Folding
------------------------------------------------------------

namespace CallDiagnosis

namespace Folded

/- The text with ASCII capitals replaced by small letters. -/
def lower
    (s : String) :
    String :=
  String.ofList (s.toList.map Char.toLower)

/- Two texts are the same up to the case of ASCII letters. -/
def Same
    (s t : String) :
    Prop :=
  lower s = lower t

instance
    (s t : String) :
    Decidable (Same s t) :=
  inferInstanceAs (Decidable (lower s = lower t))

end Folded

end CallDiagnosis
