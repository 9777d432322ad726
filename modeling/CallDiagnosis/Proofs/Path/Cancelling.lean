import CallDiagnosis.Proofs.Path.Plain
import Mathlib.Data.List.Nodup
import Mathlib.Data.List.Range

/-
  Which names the dots of a path take back.

  Key definitions include:
    * `CallDiagnosis.Path.keptBefore`
    * `CallDiagnosis.Path.Cancels`
    * `CallDiagnosis.Path.remaining`

  Key theorems include:
    * `CallDiagnosis.Path.exists_cancels`
    * `CallDiagnosis.Path.foldDots_eq_remaining`

  Every pair of dots in a path takes back the nearest name
  before it that no earlier pair has taken back, if there is
  one.  This says by places which names are left of a path,
  and does not say how they are found.  Folding leaves these.
-/

------------------------------------------------------------
-- Names that Are Kept
------------------------------------------------------------

namespace CallDiagnosis

namespace Path

/- A piece that is a name: it is neither empty nor dots. -/
def IsName
    (piece : List Char) :
    Prop :=
  piece ≠ [] ∧ piece ≠ ['.'] ∧ piece ≠ ['.', '.']

instance
    (piece : List Char) :
    Decidable (IsName piece) :=
  inferInstanceAs
    (Decidable
      (piece ≠ [] ∧ piece ≠ ['.'] ∧ piece ≠ ['.', '.']))

/- Folding keeps a name. -/
theorem push_name
    (kept : List (List Char))
    (piece : List Char)
    (hName : IsName piece) :
    push kept piece = piece :: kept := by
  simp [push, hName.1, hName.2.1, hName.2.2]

variable (parts : List (List Char))
variable (taken : Nat → Option Nat)

/-
  The places before a place where there is a name that was
  not taken back from any place before it either.
-/
def keptBefore
    (place : Nat) :
    List Nat :=
  (List.range place).filter fun i =>
    IsName (parts.getD i []) ∧ ∀ j < place, taken j ≠ some i

/-
  What each place takes back.  A pair of dots takes back the
  nearest of the names that are kept before it, or nothing if
  none is; no other piece takes anything back.
-/
structure Cancels :
    Prop where
  dots :
    ∀ j, parts.getD j [] = ['.', '.'] →
      taken j = (keptBefore parts taken j).getLast?
  other :
    ∀ j, parts.getD j [] ≠ ['.', '.'] → taken j = none

/- The names that are kept in the end, in their order. -/
def remaining :
    List (List Char) :=
  (keptBefore parts taken parts.length).map
    (parts.getD · [])

end Path

end CallDiagnosis

------------------------------------------------------------
-- From Place to Place
------------------------------------------------------------

namespace CallDiagnosis

namespace Path

variable {parts : List (List Char)}
variable {taken : Nat → Option Nat}

theorem lt_of_mem_keptBefore
    {place i : Nat}
    (hKept : i ∈ keptBefore parts taken place) :
    i < place :=
  List.mem_range.mp (List.mem_filter.mp hKept).1

/- Only what stands before a place is taken back from it. -/
theorem Cancels.lt
    (hCancels : Cancels parts taken)
    {j i : Nat}
    (hTaken : taken j = some i) :
    i < j := by
  by_cases hDots : parts.getD j [] = ['.', '.']
  · rw [hCancels.dots j hDots] at hTaken
    exact lt_of_mem_keptBefore (List.mem_of_getLast? hTaken)
  · rw [hCancels.other j hDots] at hTaken
    contradiction

/-
  At each place the name that is taken back is lost, and the
  name that stands there is new.
-/
theorem keptBefore_succ
    (hEarlier : ∀ j i, taken j = some i → i < j)
    (place : Nat) :
    keptBefore parts taken (place + 1) =
      (keptBefore parts taken place).filter
          (taken place ≠ some ·) ++
        if IsName (parts.getD place []) then
          [place]
        else
          [] := by
  have hNew : ∀ j < place + 1, taken j ≠ some place := by
    intro j hj hTaken
    have hLt := hEarlier j place hTaken
    omega
  have hOld :
      ∀ i,
        (∀ j < place + 1, taken j ≠ some i) ↔
          taken place ≠ some i ∧
            ∀ j < place, taken j ≠ some i := by
    intro i
    rw [Nat.forall_lt_succ_right, and_comm]
  unfold keptBefore
  rw [List.range_succ, List.filter_append, List.filter_filter]
  congr 1
  · apply List.filter_congr
    intro i _
    simp only [hOld, decide_eq_decide, ← Bool.decide_and]
    tauto
  · simp only [List.filter_cons, List.filter_nil,
      decide_eq_true_eq, and_iff_left hNew]

/- To take back the last of some places leaves the others. -/
theorem filter_ne_getLast?
    (places : List Nat)
    (hDistinct : places.Nodup) :
    places.filter (places.getLast? ≠ some ·) =
      places.dropLast := by
  rcases List.eq_nil_or_concat places with
    rfl | ⟨earlier, last, rfl⟩
  · rfl
  · rw [List.concat_eq_append] at hDistinct ⊢
    have hLast : last ∉ earlier := by
      intro hMember
      exact
        (List.nodup_append.mp hDistinct).2.2 last hMember
          last List.mem_cons_self rfl
    rw [List.getLast?_concat, List.dropLast_concat,
      List.filter_append]
    have hEarlier :
        earlier.filter (some last ≠ some ·) = earlier := by
      rw [List.filter_eq_self]
      intro i hi
      simp only [ne_eq, Option.some.injEq, decide_eq_true_eq]
      rintro rfl
      exact hLast hi
    rw [hEarlier]
    simp

theorem nodup_keptBefore
    (place : Nat) :
    (keptBefore parts taken place).Nodup :=
  List.nodup_range.filter _

section Steps

variable (hCancels : Cancels parts taken)
variable (place : Nat)

include hCancels

/- A name is kept behind those that are kept already. -/
theorem Cancels.keptBefore_succ_name
    (hName : IsName (parts.getD place [])) :
    keptBefore parts taken (place + 1) =
      keptBefore parts taken place ++ [place] := by
  have hTaken := hCancels.other place hName.2.2
  rw [keptBefore_succ (fun _ _ => hCancels.lt) place,
    if_pos hName, hTaken]
  simp

/- A pair of dots takes back the name that was kept last. -/
theorem Cancels.keptBefore_succ_dots
    (hDots : parts.getD place [] = ['.', '.']) :
    keptBefore parts taken (place + 1) =
      (keptBefore parts taken place).dropLast := by
  have hTaken := hCancels.dots place hDots
  have hName : ¬ IsName (parts.getD place []) :=
    fun hName => hName.2.2 hDots
  rw [keptBefore_succ (fun _ _ => hCancels.lt) place,
    if_neg hName, hTaken, List.append_nil,
    filter_ne_getLast? _ (nodup_keptBefore place)]

/- Any other piece changes nothing. -/
theorem Cancels.keptBefore_succ_idle
    (hName : ¬ IsName (parts.getD place []))
    (hDots : parts.getD place [] ≠ ['.', '.']) :
    keptBefore parts taken (place + 1) =
      keptBefore parts taken place := by
  have hTaken := hCancels.other place hDots
  rw [keptBefore_succ (fun _ _ => hCancels.lt) place,
    if_neg hName, hTaken]
  simp

end Steps

end Path

end CallDiagnosis

------------------------------------------------------------
-- Folding Leaves the Names that Are Kept
------------------------------------------------------------

namespace CallDiagnosis

namespace Path

variable {parts : List (List Char)}
variable {taken : Nat → Option Nat}

/-
  The pieces that folding has kept after so many pieces are
  those at the kept places, the last one first.  The induction
  is on the number of pieces that were read.
-/
theorem Cancels.foldl_push_take
    (hCancels : Cancels parts taken)
    (place : Nat)
    (hBound : place ≤ parts.length) :
    (parts.take place).foldl push [] =
      ((keptBefore parts taken place).map
        (parts.getD · [])).reverse := by
  induction place with
  | zero => rfl
  | succ place ih =>
      have hHere : place < parts.length := by
        omega
      have hPiece : parts[place] = parts.getD place [] := by
        simp [hHere]
      rw [List.take_succ_eq_append_getElem hHere,
        List.foldl_append, ih (by omega), List.foldl_cons,
        List.foldl_nil, hPiece]
      by_cases hName : IsName (parts.getD place [])
      · rw [hCancels.keptBefore_succ_name place hName]
        rw [push_name _ _ hName, List.map_append,
          List.reverse_append]
        rfl
      · by_cases hDots : parts.getD place [] = ['.', '.']
        · rw [hCancels.keptBefore_succ_dots place hDots,
            hDots, List.map_dropLast, ← List.tail_reverse]
          rfl
        · rw [hCancels.keptBefore_succ_idle place hName
            hDots]
          have hIdle :
              parts.getD place [] = [] ∨
                parts.getD place [] = ['.'] := by
            unfold IsName at hName
            tauto
          rw [push, if_pos hIdle]

/- What folding leaves is what is kept in the end. -/
theorem foldDots_eq_remaining
    (hCancels : Cancels parts taken) :
    foldDots parts = remaining parts taken := by
  have hKept :=
    hCancels.foldl_push_take parts.length (Nat.le_refl _)
  rw [List.take_length] at hKept
  rw [foldDots, hKept, List.reverse_reverse, remaining]

end Path

end CallDiagnosis

------------------------------------------------------------
-- Every Path Can Be Cancelled
------------------------------------------------------------

namespace CallDiagnosis

namespace Path

variable (parts : List (List Char))

/- The places of the names kept after so many pieces. -/
def keptPlaces :
    Nat → List Nat
| 0 => []
| place + 1 =>
    if IsName (parts.getD place []) then
      keptPlaces place ++ [place]
    else if parts.getD place [] = ['.', '.'] then
      (keptPlaces place).dropLast
    else
      keptPlaces place

/- What a place takes back of the names kept before it. -/
def takenFrom
    (place : Nat) :
    Option Nat :=
  if parts.getD place [] = ['.', '.'] then
    (keptPlaces parts place).getLast?
  else
    none

theorem lt_of_mem_keptPlaces
    (place i : Nat)
    (hKept : i ∈ keptPlaces parts place) :
    i < place := by
  induction place with
  | zero => simp [keptPlaces] at hKept
  | succ place ih =>
      unfold keptPlaces at hKept
      split_ifs at hKept
      · rcases List.mem_append.mp hKept with hOld | hNew
        · have hBefore := ih hOld
          omega
        · have hHere := List.mem_singleton.mp hNew
          omega
      · have hBefore :=
          ih ((List.dropLast_sublist _).subset hKept)
        omega
      · have hBefore := ih hKept
        omega

theorem takenFrom_lt
    (j i : Nat)
    (hTaken : takenFrom parts j = some i) :
    i < j := by
  unfold takenFrom at hTaken
  split_ifs at hTaken
  exact
    lt_of_mem_keptPlaces parts j i
      (List.mem_of_getLast? hTaken)

/- These are the names that are kept if that is taken back. -/
theorem keptBefore_takenFrom
    (place : Nat) :
    keptBefore parts (takenFrom parts) place =
      keptPlaces parts place := by
  induction place with
  | zero => rfl
  | succ place ih =>
      have hDistinct : (keptPlaces parts place).Nodup := by
        rw [← ih]
        exact nodup_keptBefore place
      rw [keptBefore_succ (takenFrom_lt parts) place, ih,
        keptPlaces, takenFrom]
      by_cases hName : IsName (parts.getD place [])
      · rw [if_neg hName.2.2, if_pos hName, if_pos hName]
        simp
      · by_cases hDots : parts.getD place [] = ['.', '.']
        · rw [if_neg hName, if_neg hName, if_pos hDots,
            if_pos hDots, List.append_nil]
          exact filter_ne_getLast? _ hDistinct
        · rw [if_neg hName, if_neg hName, if_neg hDots,
            if_neg hDots]
          simp

/- So there is always a way to take names back. -/
theorem exists_cancels :
    ∃ taken, Cancels parts taken := by
  refine ⟨takenFrom parts, ?_, ?_⟩
  · intro j hDots
    rw [keptBefore_takenFrom, takenFrom, if_pos hDots]
  · intro j hDots
    rw [takenFrom, if_neg hDots]

end Path

end CallDiagnosis
