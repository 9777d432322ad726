import CallDiagnosis.Proofs.Path.Cancelling
import CallDiagnosis.Proofs.Viewpoint.Composition

/-
  The form of a path that was seen from a working directory.

  Key definitions include:
    * `CallDiagnosis.Path.written`

  Key theorems include:
    * `CallDiagnosis.Path.fold_eq_written`
    * `CallDiagnosis.Path.fold_written`
    * `CallDiagnosis.WorkingDirectory.resolve_writes_remaining`

  Folding writes down the names that are left of a path, each
  behind a slash.  It keeps a slash at the end if a name is
  left for it to follow.  A path that is written in this way
  is already folded, from wherever it is seen.
-/

------------------------------------------------------------
-- Folded Paths
------------------------------------------------------------

namespace CallDiagnosis

namespace Path

/-
  A path written from its names, each behind a slash.  One
  more slash says that a directory is meant.  Without a name
  there is only the root.
-/
def written
    (names : List (List Char))
    (asDirectory : Bool) :
    String :=
  if names = [] then
    "/"
  else if asDirectory then
    String.ofList (rooted names) ++ "/"
  else
    String.ofList (rooted names)

/- Folding writes what is left, and keeps the last slash. -/
theorem fold_eq_written
    (path : String) :
    fold path =
      written (foldDots (pieces path.toList))
        (EndsInSlash path) := by
  unfold fold written
  cases foldDots (pieces path.toList) with
  | nil => rfl
  | cons name names => simp

section Written

variable (names : List (List Char))
variable (asDirectory : Bool)

theorem isAbsolute_written :
    IsAbsolute (written names asDirectory) := by
  cases names with
  | nil =>
      have hRoot : IsAbsolute "/" := by decide
      exact hRoot
  | cons name names =>
      cases asDirectory with
      | false => simp [written, IsAbsolute, rooted]
      | true => simp [written, IsAbsolute, rooted]

/- Behind a name there is a slash only for a directory. -/
theorem endsInSlash_written_iff
    (hParts : ∀ name ∈ names, IsComponent name)
    (hNonempty : names ≠ []) :
    EndsInSlash (written names asDirectory) ↔
      asDirectory = true := by
  cases asDirectory with
  | false =>
      have hText :
          ¬ EndsInSlash (String.ofList (rooted names)) := by
        simpa [EndsInSlash] using
          getLast?_rooted_ne names hParts
      simpa [written, hNonempty] using hText
  | true =>
      have hSlash : EndsInSlash "/" := by decide
      simp [written, hNonempty,
        endsInSlash_append _ "/" (by decide), hSlash]

variable (hNames : ∀ name ∈ names, Plain name)

include hNames

/- Its names are left of what was written from them. -/
theorem foldDots_pieces_written :
    foldDots (pieces (written names asDirectory).toList) =
      names := by
  have hPieces :=
    pieces_rooted names
      (fun name hName => (hNames name hName).slashFree)
  have hLeft : ([] :: names).foldl push [] = names.reverse := by
    rw [List.foldl_cons]
    change names.foldl push [] = _
    rw [foldl_push_plain [] names hNames, List.append_nil]
  by_cases hEmpty : names = []
  · subst hEmpty
    have hRoot : foldDots (pieces "/".toList) = [] := by decide
    exact hRoot
  · cases asDirectory with
    | false =>
        simp [written, hEmpty, hPieces, foldDots, hLeft]
    | true =>
        have hSplit :
            (written names true).toList =
              rooted names ++ '/' :: [] := by
          simp [written, hEmpty]
        rw [hSplit, pieces_append_slash, hPieces, foldDots,
          List.foldl_append, hLeft]
        simp [pieces, push]

/- A path that was written from names is folded already. -/
theorem fold_written :
    fold (written names asDirectory) =
      written names asDirectory := by
  rw [fold_eq_written,
    foldDots_pieces_written names asDirectory hNames]
  by_cases hEmpty : names = []
  · simp [written, hEmpty]
  · have hParts : ∀ name ∈ names, IsComponent name :=
      fun name hName => (hNames name hName).isComponent
    simp [endsInSlash_written_iff names asDirectory hParts
      hEmpty]

end Written

end Path

end CallDiagnosis

------------------------------------------------------------
-- Paths Seen from a Directory
------------------------------------------------------------

namespace CallDiagnosis

namespace WorkingDirectory

open CallDiagnosis.Path

variable (w : WorkingDirectory)

/- From every directory a written path is seen as it is. -/
theorem resolve_written
    (names : List (List Char))
    (hNames : ∀ name ∈ names, Plain name)
    (asDirectory : Bool) :
    w.resolve (written names asDirectory) =
      written names asDirectory := by
  have hAbsolute := isAbsolute_written names asDirectory
  rw [resolve, locate, if_pos hAbsolute,
    fold_written names asDirectory hNames]

/-
  Whatever the working directory is, a path is seen as written
  from plain names, with one more slash exactly if it ends in
  a slash and a name is left.  The names are those that are
  kept, in their order, when each pair of dots takes back the
  nearest kept name before it, as can always be done.  What is
  written in this way is seen unchanged from everywhere.
-/
theorem resolve_writes_remaining
    (path : String) :
    (∃ names : List (List Char),
      (∀ name ∈ names, Plain name) ∧
      w.resolve path =
        written names (EndsInSlash (w.locate path)) ∧
      (∃ taken,
        Cancels (pieces (w.locate path).toList) taken) ∧
      ∀ taken,
        Cancels (pieces (w.locate path).toList) taken →
        names =
          remaining (pieces (w.locate path).toList) taken) ∧
    (∀ other : WorkingDirectory,
      other.resolve (w.resolve path) = w.resolve path) ∧
    ∀ (names : List (List Char)) (asDirectory : Bool),
      (∀ name ∈ names, Plain name) →
      ∀ other : WorkingDirectory,
        other.resolve (written names asDirectory) =
          written names asDirectory := by
  have hPlain := plain_foldDots (w.locate path).toList
  have hWritten := fold_eq_written (w.locate path)
  refine ⟨?_, ?_, ?_⟩
  · refine
      ⟨foldDots (pieces (w.locate path).toList), hPlain,
        hWritten, exists_cancels _, ?_⟩
    intro taken hCancels
    exact foldDots_eq_remaining hCancels
  · intro other
    change other.resolve (fold _) = fold _
    rw [hWritten]
    exact other.resolve_written _ hPlain _
  · intro names asDirectory hNames other
    exact other.resolve_written names hNames asDirectory

/- The pieces of a path with three pairs of dots in it. -/
def piecesOnDetour :
    List (List Char) :=
  ["", "srv", ".", "..", "..", "", "a", "b", "..", "...",
    ""].map String.toList

/-
  The first pair of dots takes back `srv`, the second one
  finds no name, and the third one takes back `b`.
-/
def takenOnDetour
    (place : Nat) :
    Option Nat :=
  if place = 3 then
    some 1
  else if place = 8 then
    some 7
  else
    none

theorem cancels_detour :
    Cancels piecesOnDetour takenOnDetour := by
  have hWithin :
      ∀ j < 11,
        piecesOnDetour.getD j [] = ['.', '.'] →
        takenOnDetour j =
          (keptBefore piecesOnDetour
            takenOnDetour j).getLast? := by
    decide
  have hBeyond :
      ∀ j, ¬ j < 11 → piecesOnDetour[j]? = none := by
    intro j hj
    exact List.getElem?_eq_none (Nat.le_of_not_lt hj)
  constructor
  · intro j hDots
    by_cases hBound : j < 11
    · exact hWithin j hBound hDots
    · rw [List.getD_eq_getElem?_getD, hBeyond j hBound]
        at hDots
      contradiction
  · intro j hOther
    unfold takenOnDetour
    split_ifs with hThird hEighth
    · subst hThird
      exact absurd rfl hOther
    · subst hEighth
      exact absurd rfl hOther
    · rfl

/- The other names are left, and three dots are one of them. -/
theorem resolve_writes_remaining_of_detour :
    Cancels piecesOnDetour takenOnDetour ∧
    (ofPath "srv/.").resolve "../..//a/b/../.../" =
      "/a/.../" ∧
    (∀ name ∈ [['a'], ['.', '.', '.']], Plain name) ∧
    (ofPath "up/..").resolve "/a/.../" = "/a/.../" := by
  rcases
      (ofPath "srv/.").resolve_writes_remaining
        "../..//a/b/../.../" with
    ⟨⟨names, -, hResolve, -, hNames⟩, -, hForm⟩
  have hPieces :
      pieces
          ((ofPath "srv/.").locate
            "../..//a/b/../.../").toList =
        piecesOnDetour := by
    decide
  have hRemaining :
      remaining piecesOnDetour takenOnDetour =
        [['a'], ['.', '.', '.']] := by
    decide
  have hPlain :
      ∀ name ∈ [['a'], ['.', '.', '.']], Plain name := by
    simp only [List.forall_mem_cons, List.not_mem_nil,
      false_implies, implies_true, and_true]
    exact
      ⟨⟨by decide, by decide, by decide, by decide⟩,
        ⟨by decide, by decide, by decide, by decide⟩⟩
  rw [hPieces] at hNames
  rw [hNames takenOnDetour cancels_detour, hRemaining]
    at hResolve
  refine
    ⟨cancels_detour, hResolve.trans (by decide), hPlain, ?_⟩
  exact hForm _ true hPlain (ofPath "up/..")

end WorkingDirectory

end CallDiagnosis
