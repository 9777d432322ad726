import CallDiagnosis.Path.Components

/-
  The directories above a path.

  Key definitions include:
    * `CallDiagnosis.Path.beforeLastSlash?`
    * `CallDiagnosis.Path.containing`
    * `CallDiagnosis.Path.nextCandidate?`
    * `CallDiagnosis.Path.candidates`

  The directory that contains a path is what stands before
  the last slash, slashes at the very end aside.  Climbing
  from a path by this rule gives the places at which a limit
  can be asked for when the path itself does not exist.  A
  relative path climbs to the working directory, and there
  the climb ends.
-/

------------------------------------------------------------
-- Containing Directory
------------------------------------------------------------

namespace CallDiagnosis

namespace Path

/-
  What stands before the last slash of a text, the slashes at
  its very end aside.  There may be no such slash.
-/
def beforeLastSlash?
    (cs : List Char) :
    Option (List Char) :=
  match (cs.reverse.dropWhile (· = '/')).dropWhile (· ≠ '/')
  with
  | [] => none
  | _ :: before => some before.reverse

/- Cutting at the last slash makes a text shorter. -/
theorem length_beforeLastSlash?_lt
    (cs before : List Char)
    (hCut : beforeLastSlash? cs = some before) :
    before.length < cs.length := by
  unfold beforeLastSlash? at hCut
  split at hCut
  · exact absurd hCut (by simp)
  · rename_i c rest hRest
    have hInner :=
      (List.dropWhile_sublist
        (l := cs.reverse.dropWhile (· = '/'))
        (· ≠ '/')).length_le
    have hOuter :=
      (List.dropWhile_sublist
        (l := cs.reverse) (· = '/')).length_le
    rw [hRest] at hInner
    have hBefore : rest.reverse = before := by
      simpa using hCut
    subst hBefore
    simp only [List.length_cons, List.length_reverse]
      at hInner hOuter ⊢
    omega

/-
  The directory that contains a path.  A path with no slash
  before its last component lies in the root.
-/
def containing
    (path : String) :
    String :=
  match beforeLastSlash? path.toList with
  | none => "/"
  | some [] => "/"
  | some before => String.ofList before

end Path

end CallDiagnosis

------------------------------------------------------------
-- Climbing
------------------------------------------------------------

namespace CallDiagnosis

namespace Path

/-
  The place to ask after a given one: its containing
  directory, or the working directory if it has no slash.
  After the root and the working directory there is none.
-/
def nextCandidate?
    (path : List Char) :
    Option (List Char) :=
  if path = ['/'] ∨ path = ['.'] then
    none
  else
    match beforeLastSlash? path with
    | none => some ['.']
    | some [] => some ['/']
    | some before => some before

/-
  How far a climb still has to go.  The working directory is
  the end of a climb.
-/
def climbHeight
    (path : List Char) :
    Nat :=
  if path = ['.'] then 0 else path.length + 1

/- Each place of a climb is nearer to its end. -/
theorem climbHeight_nextCandidate?_lt
    (path next : List Char)
    (hNext : nextCandidate? path = some next) :
    climbHeight next < climbHeight path := by
  unfold nextCandidate? at hNext
  split at hNext
  · exact absurd hNext (by simp)
  · rename_i hInner
    have hRoot : path ≠ ['/'] := fun hEq =>
      hInner (Or.inl hEq)
    have hDot : path ≠ ['.'] := fun hEq =>
      hInner (Or.inr hEq)
    have hPath : climbHeight path = path.length + 1 := by
      simp [climbHeight, hDot]
    have hLe : climbHeight next ≤ next.length + 1 := by
      unfold climbHeight
      split <;> omega
    split at hNext
    · have hEq : ['.'] = next := by simpa using hNext
      subst hEq
      simp [climbHeight, hDot]
    · rename_i hCut
      have hEq : ['/'] = next := by simpa using hNext
      subst hEq
      have hLt := length_beforeLastSlash?_lt path [] hCut
      have hLen : path.length ≠ 1 := by
        intro hOne
        obtain ⟨c, hC⟩ := List.length_eq_one_iff.mp hOne
        subst hC
        by_cases hSlash : c = '/'
        · exact hRoot (by rw [hSlash])
        · simp [beforeLastSlash?, hSlash] at hCut
      simp only [List.length_nil] at hLt
      rw [hPath]
      simp only [climbHeight, List.length_singleton]
      split <;> omega
    · rename_i before _ hCut
      have hEq : before = next := by simpa using hNext
      subst hEq
      have hLt := length_beforeLastSlash?_lt path before hCut
      omega

/- The places of a climb from a path, the path first. -/
def climb
    (path : List Char) :
    List (List Char) :=
  match hNext : nextCandidate? path with
  | none => [path]
  | some next =>
      have _hLower :=
        climbHeight_nextCandidate?_lt path next hNext
      path :: climb next
termination_by climbHeight path

/-
  The places at which to ask for a limit of a path: the path
  itself, then each directory above it.
-/
def candidates
    (path : String) :
    List String :=
  (climb path.toList).map String.ofList

end Path

end CallDiagnosis
