import Mathlib.Data.List.Basic

/-
  Fields that stand between marks.

  Key theorems include:
    * `CallDiagnosis.Framing.fields_eq`
    * `CallDiagnosis.Framing.joined_eq`

  A field in which a mark does not occur ends where the mark
  occurs first.  So it is told from what comes after it, and
  fields that are joined by the mark are told apart.
-/

------------------------------------------------------------
-- Fields
------------------------------------------------------------

namespace CallDiagnosis

namespace Framing

variable {mark : Char}

/- A field before a mark and the rest after it are unique. -/
theorem fields_eq
    {first second rest others : List Char}
    (hFirst : mark ∉ first)
    (hSecond : mark ∉ second)
    (hEqual :
      first ++ mark :: rest = second ++ mark :: others) :
    first = second ∧ rest = others := by
  induction first generalizing second with
  | nil =>
      cases second with
      | nil => exact ⟨rfl, List.tail_eq_of_cons_eq hEqual⟩
      | cons d second =>
          have hMark : mark = d :=
            List.head_eq_of_cons_eq hEqual
          exact absurd (by simp [hMark]) hSecond
  | cons c first ih =>
      rw [List.mem_cons, not_or] at hFirst
      cases second with
      | nil =>
          have hMark : c = mark :=
            List.head_eq_of_cons_eq hEqual
          exact absurd hMark.symm hFirst.1
      | cons d second =>
          rw [List.mem_cons, not_or] at hSecond
          have hHead : c = d :=
            List.head_eq_of_cons_eq hEqual
          rcases
              ih hFirst.2 hSecond.2
                (List.tail_eq_of_cons_eq hEqual) with
            ⟨hFields, hRest⟩
          exact ⟨by rw [hHead, hFields], hRest⟩

/- Two or more fields that are joined contain the mark. -/
theorem mark_mem_joined
    (first second : List Char)
    (rest : List (List Char)) :
    mark ∈ [mark].intercalate (first :: second :: rest) := by
  simp [List.intercalate_cons_cons]

/- What is in no field is in none of the joined ones. -/
theorem not_mem_joined
    {other : Char}
    {fields : List (List Char)}
    (hFields : ∀ field ∈ fields, other ∉ field)
    (hOther : other ≠ mark) :
    other ∉ [mark].intercalate fields := by
  induction fields with
  | nil => simp [List.intercalate]
  | cons first rest ih =>
      rw [List.forall_mem_cons] at hFields
      cases rest with
      | nil =>
          rw [List.intercalate_singleton]
          exact hFields.1
      | cons second rest =>
          rw [List.intercalate_cons_cons]
          simp [hFields.1, hOther, ih hFields.2]

/- Fields that are joined by a mark are unique. -/
theorem joined_eq
    {fields others : List (List Char)}
    (hFields : ∀ field ∈ fields, mark ∉ field)
    (hOthers : ∀ field ∈ others, mark ∉ field)
    (hSome : fields ≠ [])
    (hOtherSome : others ≠ [])
    (hEqual :
      [mark].intercalate fields = [mark].intercalate others) :
    fields = others := by
  induction fields generalizing others with
  | nil => exact absurd rfl hSome
  | cons first rest ih =>
      rw [List.forall_mem_cons] at hFields
      cases others with
      | nil => exact absurd rfl hOtherSome
      | cons other later =>
          rw [List.forall_mem_cons] at hOthers
          cases rest with
          | nil =>
              cases later with
              | nil => simpa using hEqual
              | cons next later =>
                  rw [List.intercalate_singleton] at hEqual
                  rw [hEqual] at hFields
                  exact absurd (mark_mem_joined _ _ _)
                    hFields.1
          | cons second rest =>
              cases later with
              | nil =>
                  rw [List.intercalate_singleton] at hEqual
                  rw [← hEqual] at hOthers
                  exact absurd (mark_mem_joined _ _ _)
                    hOthers.1
              | cons next later =>
                  rw [List.intercalate_cons_cons,
                    List.intercalate_cons_cons,
                    List.append_assoc, List.append_assoc]
                    at hEqual
                  rcases
                      fields_eq hFields.1 hOthers.1 hEqual with
                    ⟨hHead, hTail⟩
                  rw [hHead,
                    ih hFields.2 hOthers.2 (by simp) (by simp)
                      hTail]

end Framing

end CallDiagnosis
