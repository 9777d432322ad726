import CallDiagnosis.Proofs.Path.Climbing
import CallDiagnosis.Proofs.Path.Joining
import CallDiagnosis.Proofs.Text.Bytes

/-
  The directory that contains a path, found in three ways.

  Key definitions include:
    * `CallDiagnosis.Path.containingByBytes?`

  Key theorems include:
    * `CallDiagnosis.Path.containingByBytes?_eq`
    * `CallDiagnosis.Path.containing_written`
    * `CallDiagnosis.WorkingDirectory.containing_agrees_with_visit`

  The containing directory can be cut out of a path at the
  byte of its last slash.  A visit of the path comes to the
  same directory just before its last step, the step that the
  dot behind a slash makes aside.
-/

------------------------------------------------------------
-- Cutting at a Byte
------------------------------------------------------------

namespace CallDiagnosis

namespace Path

/-
  The directory that contains a path, cut out of its bytes at
  the last slash, the slashes at the very end aside.  There is
  no answer if a text cannot be cut at that byte.
-/
def containingByBytes?
    (path : String) :
    Option String :=
  match
    Bytes.lastSlash?
      ((Bytes.ofText path).rdropWhile (· = Bytes.slash))
  with
  | none => some "/"
  | some place =>
      if place = 0 then
        some "/"
      else
        Bytes.first? path place

/- What stands before the last name is cut out. -/
theorem containingByBytes?_append
    (front name slashes : List Char)
    (hName : IsComponent name)
    (hSlashes : AllSlashes slashes) :
    containingByBytes?
        (String.ofList (front ++ '/' :: (name ++ slashes))) =
      some (if front = [] then "/" else String.ofList front) := by
  have hFree : Bytes.slash ∉ Bytes.encoded name := by
    rw [Bytes.slash_mem_encoded_iff]
    exact hName.slashFree
  have hPlace :=
    Bytes.lastSlash?_before_name (Bytes.encoded front)
      (Bytes.encoded name) (Bytes.encoded slashes) hFree
      (Bytes.eq_slash_of_mem_encoded slashes hSlashes)
      (Bytes.encoded_ne_nil name hName.notEmpty)
  rw [containingByBytes?, Bytes.ofText_ofList,
    Bytes.encoded_append, Bytes.encoded_slash_cons,
    Bytes.encoded_append, hPlace, Bytes.length_encoded]
  cases front with
  | nil => rfl
  | cons c others =>
      have hText : String.ofList (c :: others) ≠ "" := by
        simp
      have hSize := mt String.utf8ByteSize_eq_zero_iff.mp hText
      dsimp only
      rw [if_neg hSize, String.ofList_append,
        Bytes.first?_append, if_neg (List.cons_ne_nil _ _)]

/- Every path can be cut, and into its containing directory. -/
theorem containingByBytes?_eq
    (path : String) :
    containingByBytes? path = some (containing path) := by
  rw [← String.ofList_toList (s := path)]
  generalize path.toList = text
  have hCut := cut_beforeLastSlash? text
  rw [containing, String.toList_ofList]
  generalize beforeLastSlash? text = left at hCut ⊢
  cases hCut with
  | whole name slashes hName hSlashes =>
      rw [← Bytes.slash_mem_encoded_iff] at hName
      rw [containingByBytes?, Bytes.ofText_ofList,
        Bytes.encoded_append,
        Bytes.lastSlash?_name _ _ hName
          (Bytes.eq_slash_of_mem_encoded slashes hSlashes)]
  | before front name slashes hNonempty hName hSlashes =>
      rw [containingByBytes?_append front name slashes
        ⟨hNonempty, hName⟩ hSlashes]
      cases front with
      | nil => rfl
      | cons c others => rfl

end Path

end CallDiagnosis

------------------------------------------------------------
-- Directories of Written Paths
------------------------------------------------------------

namespace CallDiagnosis

namespace Path

section Written

variable (parts : List (List Char))
variable (name : List Char)
variable
  (hParts : ∀ part ∈ parts ++ [name], IsComponent part)

include hParts

/- The last name is left out, and the slash behind it. -/
theorem containing_written
    (asDirectory : Bool) :
    containing (written (parts ++ [name]) asDirectory) =
      written parts false := by
  have hName : IsComponent name := hParts name (by simp)
  have hSplit :
      ∃ slashes,
        AllSlashes slashes ∧
        written (parts ++ [name]) asDirectory =
          String.ofList
            (rooted parts ++ '/' :: (name ++ slashes)) := by
    cases asDirectory with
    | false =>
        refine ⟨[], by simp [AllSlashes], ?_⟩
        rw [← String.toList_inj]
        simp [written, rooted]
    | true =>
        refine ⟨['/'], by simp [AllSlashes], ?_⟩
        rw [← String.toList_inj]
        simp [written, rooted]
  rcases hSplit with ⟨slashes, hSlashes, hSplit⟩
  have hBytes :=
    containingByBytes?_append (rooted parts) name slashes hName
      hSlashes
  rw [← hSplit, containingByBytes?_eq, Option.some.injEq]
    at hBytes
  rw [hBytes]
  cases parts with
  | nil => rfl
  | cons part others => simp [written, rooted]

omit hParts in
theorem dropLast_below :
    ("/" :: below (parts ++ [name])).dropLast =
      "/" :: below parts := by
  rw [below, List.map_append, ← List.cons_append]
  exact List.dropLast_concat

/- A visit joins the other names before its last step. -/
theorem joined_dropLast_components :
    joined (components (written (parts ++ [name]) false)).dropLast =
      written parts false := by
  have hOthers := (List.forall_mem_append.mp hParts).1
  rw [components_written _ hParts, dropLast_below,
    joined_eq_written parts hOthers]

/- With a slash at the end it joins them one step earlier. -/
theorem joined_dropLast_components_directory :
    joined
        (components
          (written (parts ++ [name]) true)).dropLast.dropLast =
      written parts false := by
  have hOthers := (List.forall_mem_append.mp hParts).1
  have hNonempty : parts ++ [name] ≠ [] := by
    simp
  rw [components_written_directory _ hParts hNonempty,
    dropLast_below, dropLast_below,
    joined_eq_written parts hOthers]

end Written

end Path

end CallDiagnosis

------------------------------------------------------------
-- Directories of Paths Seen from a Directory
------------------------------------------------------------

namespace CallDiagnosis

namespace WorkingDirectory

open CallDiagnosis.Path

theorem withoutLastSlash_written
    (parts : List (List Char))
    (hNonempty : parts ≠ []) :
    withoutLastSlash (written parts true) =
      written parts false := by
  rw [written_directory parts hNonempty]
  exact
    withoutLastSlash_append_slash _ (written_ne_empty parts false)

/-
  From whatever directory a path is seen, its containing
  directory can be cut out at the byte of a slash, and a visit
  has come to the same directory before its last step.  With a
  slash at the end this is so for a visit of the path without
  that slash, and a visit of the path itself comes to it one
  step earlier.  The root lies in the root.
-/
theorem containing_agrees_with_visit
    (w : WorkingDirectory)
    (path : String) :
    containingByBytes? (w.resolve path) =
      some (containing (w.resolve path)) ∧
    containing "/" = "/" ∧
    (¬ EndsInSlash (w.resolve path) →
      (steps (w.resolve path)).getLast?.map Step.parent =
        some (containing (w.resolve path)) ∧
      joined (components (w.resolve path)).dropLast =
        containing (w.resolve path)) ∧
    (EndsInSlash (w.resolve path) →
      w.resolve path ≠ "/" →
      (steps (withoutLastSlash (w.resolve path))).getLast?.map
          Step.parent =
        some (containing (w.resolve path)) ∧
      joined (components (w.resolve path)).dropLast.dropLast =
        containing (w.resolve path)) := by
  refine ⟨containingByBytes?_eq _, rfl, ?_⟩
  rcases w.exists_written_eq_resolve path with
    ⟨names, asDirectory, hNames, hSeen⟩
  rw [hSeen]
  rcases List.eq_nil_or_concat' names with
    rfl | ⟨others, name, rfl⟩
  · have hRoot : written [] asDirectory = "/" := if_pos rfl
    have hSlash : EndsInSlash "/" := by decide
    rw [hRoot]
    constructor
    · intro hEnd
      exact absurd hSlash hEnd
    · intro hEnd hOther
      exact absurd rfl hOther
  · have hNonempty : others ++ [name] ≠ [] := by
      simp
    have hEnds :=
      endsInSlash_written_iff _ asDirectory hNames hNonempty
    have hOthers :=
      joined_dropLast_components others name hNames
    rw [containing_written others name hNames, hEnds]
    constructor
    · intro hFile
      rw [Bool.not_eq_true] at hFile
      rw [hFile, parent_getLast?_steps, hOthers]
      exact ⟨rfl, rfl⟩
    · intro hDirectory _
      rw [hDirectory, withoutLastSlash_written _ hNonempty,
        parent_getLast?_steps, hOthers]
      exact
        ⟨rfl,
          joined_dropLast_components_directory others name
            hNames⟩

/- A file and a directory with characters of many bytes. -/
theorem containing_agrees_with_visit_of_umlauts :
    (ofPath "srv").resolve "up/../größe/ü" = "/srv/größe/ü" ∧
    ¬ EndsInSlash "/srv/größe/ü" ∧
    containingByBytes? "/srv/größe/ü" = some "/srv/größe" ∧
    (steps "/srv/größe/ü").getLast?.map Step.parent =
      some "/srv/größe" ∧
    (ofPath "srv").resolve "größe/./ü//" = "/srv/größe/ü/" ∧
    EndsInSlash "/srv/größe/ü/" ∧
    "/srv/größe/ü/" ≠ "/" ∧
    joined (components "/srv/größe/ü/").dropLast.dropLast =
      "/srv/größe" := by
  have hFile :
      (ofPath "srv").resolve "up/../größe/ü" =
        "/srv/größe/ü" := by
    decide
  have hDirectory :
      (ofPath "srv").resolve "größe/./ü//" =
        "/srv/größe/ü/" := by
    decide
  have hAbove : containing "/srv/größe/ü" = "/srv/größe" := by
    decide
  have hAboveDirectory :
      containing "/srv/größe/ü/" = "/srv/größe" := by
    decide
  have hUnended : ¬ EndsInSlash "/srv/größe/ü" := by
    decide
  have hEnded : EndsInSlash "/srv/größe/ü/" := by
    decide
  have hOther : "/srv/größe/ü/" ≠ "/" := by
    decide
  have hSeen :=
    (ofPath "srv").containing_agrees_with_visit
      "up/../größe/ü"
  rw [hFile, hAbove] at hSeen
  have hSeenDirectory :=
    (ofPath "srv").containing_agrees_with_visit "größe/./ü//"
  rw [hDirectory, hAboveDirectory] at hSeenDirectory
  rcases hSeen with ⟨hBytes, -, hVisit, -⟩
  rcases hSeenDirectory with ⟨-, -, -, hVisitDirectory⟩
  exact
    ⟨hFile, hUnended, hBytes, (hVisit hUnended).1, hDirectory,
      hEnded, hOther, (hVisitDirectory hEnded hOther).2⟩

end WorkingDirectory

end CallDiagnosis
