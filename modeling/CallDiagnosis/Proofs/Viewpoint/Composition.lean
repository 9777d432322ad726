import CallDiagnosis.Proofs.Path.Plain
import CallDiagnosis.Viewpoint

/-
  Changes of the working directory, one after the other.

  Key definitions include:
    * `CallDiagnosis.Path.Canonical`
    * `CallDiagnosis.WorkingDirectory.sinceAbsolute`

  Key theorems include:
    * `CallDiagnosis.WorkingDirectory.canonical_enter`
    * `CallDiagnosis.WorkingDirectory.resolve_enter`
    * `CallDiagnosis.WorkingDirectory.resolve_after_changes`

  Each change of the directory folds the dots of its target at
  once.  A path that is resolved after many changes is still
  resolved as if all targets had been written in front of it
  and folded together, from the last absolute target on.
-/

------------------------------------------------------------
-- Ends of Texts
------------------------------------------------------------

namespace CallDiagnosis

namespace Path

/- A path in the form that a change of directory leaves. -/
structure Canonical
    (path : String) :
    Prop where
  absolute : IsAbsolute path
  unended : EndsInSlash path → path = "/"
  plain :
    path ≠ "/" →
      ∀ piece ∈ (pieces path.toList).tail,
        piece ≠ [] ∧ piece ≠ ['.'] ∧ piece ≠ ['.', '.']

/- Only its last part decides how a text ends. -/
theorem endsInSlash_append
    (before after : String)
    (hAfter : after ≠ "") :
    EndsInSlash (before ++ after) ↔ EndsInSlash after := by
  have hChars : after.toList ≠ [] := by
    simpa using hAfter
  unfold EndsInSlash
  rw [String.toList_append, List.getLast?_append,
    List.getLast?_eq_some_getLast hChars, Option.some_or]

/- Only its first part decides how a text starts. -/
theorem isAbsolute_append
    (before after : String)
    (hBefore : before ≠ "") :
    IsAbsolute (before ++ after) ↔ IsAbsolute before := by
  have hChars : before.toList ≠ [] := by
    simpa using hBefore
  unfold IsAbsolute
  rw [String.toList_append, List.head?_append,
    List.head?_eq_some_head hChars, Option.some_or]

/- A folded path depends on what is left and on the last slash. -/
theorem fold_congr
    (path other : String)
    (hLeft :
      foldDots (pieces path.toList) =
        foldDots (pieces other.toList))
    (hEnd : EndsInSlash path ↔ EndsInSlash other) :
    fold path = fold other := by
  unfold fold
  rw [hLeft]
  simp only [hEnd]

end Path

end CallDiagnosis

------------------------------------------------------------
-- One Change
------------------------------------------------------------

namespace CallDiagnosis

namespace WorkingDirectory

open CallDiagnosis.Path

variable (w : WorkingDirectory)
variable (target path : String)

/- What is left of the text that a path stands for. -/
def parts :
    List (List Char) :=
  foldDots (pieces (w.locate path).toList)

/- A text that does not end in a slash has none to lose. -/
theorem withoutLastSlash_of_not_endsInSlash
    (hEnd : ¬ EndsInSlash path) :
    withoutLastSlash path = path := by
  simp [withoutLastSlash, hEnd]

/- A slash behind a text that is not empty is lost. -/
theorem withoutLastSlash_append_slash
    (hPath : path ≠ "") :
    withoutLastSlash (path ++ "/") = path := by
  have hEnd : EndsInSlash (path ++ "/") := by
    rw [endsInSlash_append path "/" (by decide)]
    decide
  have hSize : path.utf8ByteSize ≠ 0 := by
    simpa using hPath
  have hLong : 1 < (path ++ "/").utf8ByteSize := by
    rw [String.utf8ByteSize_append]
    have hSlash : "/".utf8ByteSize = 1 := by decide
    omega
  rw [withoutLastSlash, if_pos ⟨hLong, hEnd⟩,
    String.toList_append]
  have hSlash : "/".toList = ['/'] := by decide
  rw [hSlash, List.dropLast_concat, String.ofList_toList]

/- After a change the directory is what is left of the target. -/
theorem toList_path_enter :
    (w.enter target).path.toList =
      if w.parts target = [] then
        ['/']
      else
        rooted (w.parts target) := by
  have hPlain : ∀ part ∈ w.parts target, Plain part :=
    plain_foldDots (w.locate target).toList
  cases hParts : w.parts target with
  | nil =>
      have hFold : fold (w.locate target) = "/" := by
        unfold parts at hParts
        simp [fold, hParts]
      have hRoot : withoutLastSlash "/" = "/" := by decide
      rw [enter, resolve, hFold, hRoot, if_pos rfl]
      decide
  | cons part others =>
      rw [hParts] at hPlain
      have hText :
          ¬ EndsInSlash
            (String.ofList (rooted (part :: others))) := by
        simpa [EndsInSlash] using
          getLast?_rooted_ne _
            (fun p hp => (hPlain p hp).isComponent)
      have hNonempty :
          String.ofList (rooted (part :: others)) ≠ "" := by
        simp [rooted]
      have hFold :
          fold (w.locate target) =
            if EndsInSlash (w.locate target) then
              String.ofList (rooted (part :: others)) ++ "/"
            else
              String.ofList (rooted (part :: others)) := by
        unfold parts at hParts
        simp [fold, hParts]
      rw [enter, resolve, hFold, if_neg (List.cons_ne_nil _ _)]
      split
      · rw [withoutLastSlash_append_slash _ hNonempty,
          String.toList_ofList]
      · rw [withoutLastSlash_of_not_endsInSlash _ hText,
          String.toList_ofList]

/- What is left of the new directory is left of the target. -/
theorem foldDots_path_enter :
    foldDots (pieces (w.enter target).path.toList) =
      w.parts target := by
  rw [toList_path_enter]
  split
  · rename_i hParts
    rw [hParts]
    decide
  · exact foldDots_pieces_rooted (w.locate target).toList

/- A change leaves the directory in canonical form. -/
theorem canonical_enter :
    Canonical (w.enter target).path := by
  have hPlain : ∀ part ∈ w.parts target, Plain part :=
    plain_foldDots (w.locate target).toList
  have hPath := toList_path_enter w target
  cases hParts : w.parts target with
  | nil =>
      rw [hParts, if_pos rfl] at hPath
      have hRoot : (w.enter target).path = "/" := by
        rw [← String.toList_inj, hPath]
        decide
      rw [hRoot]
      exact ⟨by decide, fun _ => rfl, fun h => absurd rfl h⟩
  | cons part others =>
      rw [hParts] at hPlain hPath
      rw [if_neg (List.cons_ne_nil _ _)] at hPath
      constructor
      · simp [IsAbsolute, hPath, rooted]
      · intro hEnd
        unfold EndsInSlash at hEnd
        rw [hPath] at hEnd
        refine absurd hEnd (getLast?_rooted_ne _ ?_)
        exact fun p hp => (hPlain p hp).isComponent
      · intro _ piece hPiece
        rw [hPath,
          pieces_rooted _ (fun p hp => (hPlain p hp).slashFree),
          List.tail_cons] at hPiece
        have hKept := hPlain piece hPiece
        exact ⟨hKept.notEmpty, hKept.notDot, hKept.notDots⟩

/-
  After a change a relative path stands for what it would
  have stood for behind the target.
-/
theorem resolve_enter
    (hTarget : target ≠ "")
    (hRelative : ¬ IsAbsolute path) :
    (w.enter target).resolve path =
      w.resolve (target ++ ("/" ++ path)) := by
  have hBehind :
      w.locate (target ++ ("/" ++ path)) =
        w.locate target ++ ("/" ++ path) := by
    unfold locate
    simp only [isAbsolute_append target ("/" ++ path) hTarget]
    split
    · rfl
    · simp only [String.append_assoc]
  have hHere :
      (w.enter target).locate path =
        (w.enter target).path ++ ("/" ++ path) := by
    rw [locate, if_neg hRelative, String.append_assoc]
  have hPieces :
      ∀ before : String,
        pieces (before ++ ("/" ++ path)).toList =
          pieces before.toList ++ pieces path.toList := by
    intro before
    rw [← pieces_append_slash]
    simp
  have hTail : "/" ++ path ≠ "" := by
    simp
  rw [resolve, resolve, hHere, hBehind]
  apply fold_congr
  · rw [hPieces, hPieces]
    exact foldDots_append_congr _ _ _
      (foldDots_path_enter w target)
  · rw [endsInSlash_append _ _ hTail,
      endsInSlash_append _ _ hTail]

end WorkingDirectory

end CallDiagnosis

------------------------------------------------------------
-- Many Changes
------------------------------------------------------------

namespace CallDiagnosis

namespace WorkingDirectory

open CallDiagnosis.Path

/-
  The targets from the last absolute one on.  If none of them
  is absolute, these are all targets.
-/
def sinceAbsolute :
    List String → List String
| [] => []
| target :: later =>
    if ∃ other ∈ later, IsAbsolute other then
      sinceAbsolute later
    else
      target :: later

/- Without an absolute target all targets count. -/
theorem sinceAbsolute_of_relative
    (targets : List String)
    (hRelative : ∀ target ∈ targets, ¬ IsAbsolute target) :
    sinceAbsolute targets = targets := by
  cases targets with
  | nil => rfl
  | cons target later =>
      rw [List.forall_mem_cons] at hRelative
      have hLater : ¬ ∃ other ∈ later, IsAbsolute other := by
        rintro ⟨other, hOther, hAbsolute⟩
        exact hRelative.2 other hOther hAbsolute
      rw [sinceAbsolute, if_neg hLater]

/- With an absolute target the first one that counts is so. -/
theorem exists_sinceAbsolute_eq_cons
    (targets : List String)
    (hAbsolute : ∃ target ∈ targets, IsAbsolute target) :
    ∃ first ∈ targets,
      ∃ others,
        IsAbsolute first ∧
        sinceAbsolute targets = first :: others := by
  induction targets with
  | nil => simp at hAbsolute
  | cons target later ih =>
      by_cases hLater : ∃ other ∈ later, IsAbsolute other
      · rcases ih hLater with
          ⟨first, hFirst, others, hHead, hSince⟩
        refine
          ⟨first, List.mem_cons_of_mem _ hFirst, others,
            hHead, ?_⟩
        rw [sinceAbsolute, if_pos hLater, hSince]
      · refine
          ⟨target, List.mem_cons_self, later, ?_, ?_⟩
        · rcases hAbsolute with ⟨other, hOther, hHead⟩
          rcases List.mem_cons.mp hOther with rfl | hOther
          · exact hHead
          · exact absurd ⟨other, hOther, hHead⟩ hLater
        · rw [sinceAbsolute, if_neg hLater]

/- A joined text starts as the first of its texts does. -/
theorem isAbsolute_intercalate
    (first : String)
    (others : List String)
    (hFirst : first ≠ "") :
    IsAbsolute ("/".intercalate (first :: others)) ↔
      IsAbsolute first := by
  by_cases hOthers : others = []
  · rw [hOthers, String.intercalate_singleton]
  · rw [String.intercalate_cons_of_ne_nil hOthers,
      String.append_assoc, isAbsolute_append _ _ hFirst]

variable (w : WorkingDirectory)

/- An absolute path is resolved without the directory. -/
theorem resolve_absolute
    (other : WorkingDirectory)
    (path : String)
    (hAbsolute : IsAbsolute path) :
    w.resolve path = other.resolve path := by
  simp [resolve, locate, hAbsolute]

/-
  Many changes are one change by their targets together.  The
  induction is on the targets from the first one: the changes
  after it start from the directory it leads to.
-/
theorem resolve_foldl_enter
    (targets : List String)
    (hNamed : ∀ target ∈ targets, target ≠ "")
    (path : String)
    (hRelative : ¬ IsAbsolute path) :
    (targets.foldl enter w).resolve path =
      w.resolve
        ("/".intercalate
          (sinceAbsolute targets ++ [path])) := by
  induction targets generalizing w with
  | nil => simp [sinceAbsolute]
  | cons target later ih =>
      rw [List.forall_mem_cons] at hNamed
      rw [List.foldl_cons, ih (w.enter target) hNamed.2]
      by_cases hLater : ∃ other ∈ later, IsAbsolute other
      · rcases exists_sinceAbsolute_eq_cons later hLater with
          ⟨first, hFirst, others, hAbsolute, hSince⟩
        rw [sinceAbsolute, if_pos hLater]
        apply resolve_absolute
        rw [hSince, List.cons_append,
          isAbsolute_intercalate _ _ (hNamed.2 first hFirst)]
        exact hAbsolute
      · have hAll : ∀ other ∈ later, ¬ IsAbsolute other :=
          fun other hOther hAbsolute =>
            hLater ⟨other, hOther, hAbsolute⟩
        have hText :
            ¬ IsAbsolute
              ("/".intercalate (later ++ [path])) := by
          cases later with
          | nil => simpa using hRelative
          | cons first others =>
              rw [List.cons_append,
                isAbsolute_intercalate _ _
                  (hNamed.2 first List.mem_cons_self)]
              exact hAll first List.mem_cons_self
        rw [sinceAbsolute_of_relative later hAll,
          resolve_enter w target _ hNamed.1 hText,
          sinceAbsolute, if_neg hLater, List.cons_append,
          String.intercalate_cons_of_ne_nil (by simp),
          String.append_assoc]

/-
  After any changes of the directory, wherever they started,
  the directory is canonical, and a relative path is resolved
  as if it were written behind the targets from the last
  absolute one on and resolved at the start.  An absolute path
  is resolved alike from everywhere.
-/
theorem resolve_after_changes
    (start : String)
    (targets : List String)
    (hTargets : targets ≠ [])
    (hNamed : ∀ target ∈ targets, target ≠ "") :
    Canonical (targets.foldl enter (ofPath start)).path ∧
    (∀ path, ¬ IsAbsolute path →
      (targets.foldl enter (ofPath start)).resolve path =
        (ofPath start).resolve
          ("/".intercalate
            (sinceAbsolute targets ++ [path]))) ∧
    ∀ path, IsAbsolute path →
      ∀ other : WorkingDirectory,
        (targets.foldl enter (ofPath start)).resolve path =
          other.resolve path := by
  refine ⟨?_, ?_, ?_⟩
  · rcases List.eq_nil_or_concat targets with
      hNone | ⟨earlier, last, hLast⟩
    · exact absurd hNone hTargets
    · rw [hLast, List.concat_eq_append, List.foldl_append]
      exact canonical_enter _ last
  · intro path hRelative
    exact resolve_foldl_enter (ofPath start) targets hNamed
      path hRelative
  · intro path hAbsolute other
    exact resolve_absolute _ other path hAbsolute

/- A detour that is written relative to a raw directory. -/
theorem resolve_after_changes_of_detour :
    Canonical
      (["/tmp/", "../srv//ftp", "./in/../.."].foldl enter
        (ofPath "home/.")).path ∧
    (["/tmp/", "../srv//ftp", "./in/../.."].foldl enter
        (ofPath "home/.")).resolve "a/./" =
      "/srv/a/" := by
  have hChanges :=
    resolve_after_changes "home/."
      ["/tmp/", "../srv//ftp", "./in/../.."]
      (by decide) (by decide)
  refine ⟨hChanges.1, ?_⟩
  exact
    (hChanges.2.1 "a/./" (by decide)).trans (by decide)

end WorkingDirectory

end CallDiagnosis
