import CallDiagnosis.Path.Components
import Mathlib.Tactic.SplitIfs

/-
  The paths that a visit from the root reaches.

  Key definitions include:
    * `CallDiagnosis.Path.reach`
    * `CallDiagnosis.Path.stepAt`
    * `CallDiagnosis.Path.above`

  Key theorems include:
    * `CallDiagnosis.Path.drop_steps`
    * `CallDiagnosis.Path.reach_eq_empty_iff`
    * `CallDiagnosis.Path.utf8ByteSize_reach_lt`

  Joining the first components of a path gives the path that
  a visit has reached after so many steps.  The steps of the
  visit are described by these paths alone.  Each step makes
  the path longer, so no path is reached twice.
-/

------------------------------------------------------------
-- Paths Reached
------------------------------------------------------------

namespace CallDiagnosis

namespace Path

/- The path joined from the first components of a list. -/
def reach
    (cs : List String)
    (count : Nat) :
    String :=
  (cs.take count).foldl join ""

@[simp] theorem reach_zero
    (cs : List String) :
    reach cs 0 = "" :=
  rfl

/- The directory above a step; above the root is the root. -/
def above
    (cs : List String)
    (k : Nat) :
    String :=
  if k = 0 then "/" else reach cs k

/- One component more is joined to what was reached before. -/
theorem reach_succ
    (cs : List String)
    (k : Nat)
    (hBound : k < cs.length) :
    reach cs (k + 1) = join (reach cs k) cs[k] := by
  unfold reach
  rw [List.take_succ_eq_append_getElem hBound,
    List.foldl_append]
  rfl

end Path

end CallDiagnosis

------------------------------------------------------------
-- Steps of a Visit
------------------------------------------------------------

namespace CallDiagnosis

namespace Path

/- The steps after the first few start from what those reach. -/
theorem drop_stepsFrom
    (base : String)
    (cs : List String)
    (k : Nat) :
    (stepsFrom base cs).drop k =
      stepsFrom ((cs.take k).foldl join base)
        (cs.drop k) := by
  induction cs generalizing base k with
  | nil => simp [stepsFrom]
  | cons component rest ih =>
      cases k with
      | zero => rfl
      | succ k =>
          simpa [stepsFrom] using ih (join base component) k

/- The step that adds the component at a place. -/
def stepAt
    (cs : List String)
    (k : Nat) :
    Step :=
  ⟨cs.getD k "", reach cs k, reach cs (k + 1)⟩

/- The steps from a place on begin with the step there. -/
theorem drop_steps
    (path : String)
    (k : Nat)
    (hBound : k < (components path).length) :
    (steps path).drop k =
      stepAt (components path) k ::
        (steps path).drop (k + 1) := by
  have hHere :
      (steps path).drop k =
        stepsFrom (reach (components path) k)
          ((components path).drop k) :=
    drop_stepsFrom "" (components path) k
  have hNext :
      (steps path).drop (k + 1) =
        stepsFrom (reach (components path) (k + 1))
          ((components path).drop (k + 1)) :=
    drop_stepsFrom "" (components path) (k + 1)
  rw [hHere, hNext, List.drop_eq_getElem_cons hBound,
    stepsFrom, stepAt, reach_succ (components path) k hBound]
  simp [List.getD, hBound]

theorem length_stepsFrom
    (base : String)
    (cs : List String) :
    (stepsFrom base cs).length = cs.length := by
  induction cs generalizing base with
  | nil => rfl
  | cons component rest ih =>
      simp [stepsFrom, ih]

@[simp] theorem length_steps
    (path : String) :
    (steps path).length = (components path).length :=
  length_stepsFrom "" (components path)

/- Every step adds one of the components. -/
theorem component_mem_of_mem_stepsFrom
    (base : String)
    (cs : List String)
    (step : Step)
    (hStep : step ∈ stepsFrom base cs) :
    step.component ∈ cs := by
  induction cs generalizing base with
  | nil => exact absurd hStep List.not_mem_nil
  | cons component rest ih =>
      rcases List.mem_cons.mp hStep with hFirst | hLater
      · rw [hFirst]
        exact List.mem_cons_self
      · exact List.mem_cons_of_mem _ (ih _ hLater)

theorem component_mem_of_mem_steps
    {path : String}
    {step : Step}
    (hStep : step ∈ steps path) :
    step.component ∈ components path :=
  component_mem_of_mem_stepsFrom "" _ step hStep

end Path

end CallDiagnosis

------------------------------------------------------------
-- The Root
------------------------------------------------------------

namespace CallDiagnosis

namespace Path

/- Every path starts at the root. -/
theorem components_eq_root_cons
    (path : String) :
    ∃ rest, components path = "/" :: rest := by
  unfold components
  split
  · exact ⟨[], rfl⟩
  · split
    · exact ⟨_, rfl⟩
    · exact ⟨_, rfl⟩

theorem length_components_pos
    (path : String) :
    0 < (components path).length := by
  rcases components_eq_root_cons path with ⟨rest, hRest⟩
  simp [hRest]

/- Joining to a path that is not empty leaves it not empty. -/
theorem join_ne_empty
    (base component : String)
    (hBase : base ≠ "") :
    join base component ≠ "" := by
  unfold join
  rw [if_neg hBase]
  split
  · simp [hBase]
  · simp

theorem foldl_join_ne_empty
    (base : String)
    (cs : List String)
    (hBase : base ≠ "") :
    cs.foldl join base ≠ "" := by
  induction cs generalizing base with
  | nil => exact hBase
  | cons component rest ih =>
      exact ih (join base component)
        (join_ne_empty base component hBase)

/- Only before the first step nothing has been reached. -/
theorem reach_eq_empty_iff
    (path : String)
    (k : Nat) :
    reach (components path) k = "" ↔ k = 0 := by
  rcases components_eq_root_cons path with ⟨rest, hRest⟩
  cases k with
  | zero => simp
  | succ k =>
      have hRoot : join "" "/" ≠ "" := by decide
      have hReach :=
        foldl_join_ne_empty (join "" "/") (rest.take k) hRoot
      simpa [reach, hRest] using hReach

end Path

end CallDiagnosis

------------------------------------------------------------
-- Longer and Longer Paths
------------------------------------------------------------

namespace CallDiagnosis

namespace Path

/- No piece that counts as a name is empty. -/
theorem ne_empty_of_mem_names
    (s name : String)
    (hMember : name ∈ names s) :
    name ≠ "" := by
  unfold names at hMember
  rcases List.mem_map.mp hMember with ⟨piece, hPiece, hName⟩
  have hNonempty := (List.mem_filter.mp hPiece).2
  rw [← hName]
  simpa using hNonempty

theorem ne_empty_of_mem_components
    (path component : String)
    (hMember : component ∈ components path) :
    component ≠ "" := by
  unfold components at hMember
  have hRoot : "/" ≠ "" := by decide
  split_ifs at hMember
  · rw [List.mem_singleton.mp hMember]
    exact hRoot
  · rcases List.mem_cons.mp hMember with hFirst | hName
    · rw [hFirst]
      exact hRoot
    · exact ne_empty_of_mem_names _ _ hName
  · rcases List.mem_cons.mp hMember with hFirst | hName
    · rw [hFirst]
      exact hRoot
    · exact ne_empty_of_mem_names _ _ hName

/- A component makes the path that it is joined to longer. -/
theorem utf8ByteSize_lt_join
    (base component : String)
    (hComponent : component ≠ "") :
    base.utf8ByteSize < (join base component).utf8ByteSize := by
  have hSize : 0 < component.utf8ByteSize := by
    rw [Nat.pos_iff_ne_zero, ne_eq,
      String.utf8ByteSize_eq_zero_iff]
    exact hComponent
  unfold join
  split_ifs with hBase hSlash
  · rw [hBase]
    exact hSize
  · rw [String.utf8ByteSize_append]
    omega
  · rw [String.utf8ByteSize_append,
      String.utf8ByteSize_append]
    omega

/- A visit reaches a longer path with every step. -/
theorem utf8ByteSize_reach_lt
    (path : String)
    (i j : Nat)
    (hEarlier : i < j)
    (hBound : j ≤ (components path).length) :
    (reach (components path) i).utf8ByteSize <
      (reach (components path) j).utf8ByteSize := by
  induction j with
  | zero => omega
  | succ j ih =>
      have hHere : j < (components path).length := by
        omega
      have hComponent : (components path)[j] ≠ "" :=
        ne_empty_of_mem_components path _
          (List.getElem_mem hHere)
      have hStep :=
        utf8ByteSize_lt_join
          (reach (components path) j) _ hComponent
      rw [reach_succ (components path) j hHere]
      by_cases hLast : i = j
      · rw [hLast]
        exact hStep
      · have hBefore := ih (by omega) (by omega)
        omega

end Path

end CallDiagnosis
