/-
  Texts told apart by how they begin.

  Key definitions include:
    * `CallDiagnosis.BeginsUnlike`

  Key theorems include:
    * `CallDiagnosis.BeginsUnlike.append`
    * `CallDiagnosis.BeginsUnlike.ne`

  A sentence is put together from a few words and from names
  that a caller chose.  What it begins with is often one of
  the words, and this is enough to tell it from another
  sentence, whatever the names are.
-/

namespace CallDiagnosis

/- A text that begins, but not with a certain character. -/
def BeginsUnlike
    (mark : Char)
    (text : String) :
    Prop :=
  text.toList.head?.any (· ≠ mark) = true

namespace BeginsUnlike

variable {mark : Char}

/- How a text begins is how its first part begins. -/
theorem append
    {first second : String}
    (hFirst : BeginsUnlike mark first) :
    BeginsUnlike mark (first ++ second) := by
  unfold BeginsUnlike at hFirst ⊢
  cases hHead : first.toList.head? with
  | none => simp [hHead] at hFirst
  | some c => simpa [hHead] using hFirst

/- A text that begins with the character is another one. -/
theorem ne
    {text other : String}
    (hText : BeginsUnlike mark text)
    (hOther : other.toList.head? = some mark) :
    text ≠ other := by
  rintro rfl
  simp [BeginsUnlike, hOther] at hText

end BeginsUnlike

end CallDiagnosis
