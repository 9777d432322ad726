/-
  Octal numerals.

  Key definitions include:
    * `CallDiagnosis.Octal.padded`

  Permission bits are written in base eight, without a
  leading mark, and filled up with zeros to a least width.
-/

------------------------------------------------------------
-- Octal Numerals
------------------------------------------------------------

namespace CallDiagnosis

namespace Octal

/- The octal numeral of a number, at least `width` digits long. -/
def padded
    (width n : Nat) :
    String :=
  String.ofList (List.leftpad width '0' (Nat.toDigits 8 n))

end Octal

end CallDiagnosis
