import CallDiagnosis.Proofs.Path.Reach
import CallDiagnosis.Proofs.Viewpoint.Folded

/-
  Paths that are taken apart and joined again.

  Key definitions include:
    * `CallDiagnosis.Path.below`
    * `CallDiagnosis.Path.joined`
    * `CallDiagnosis.Path.ProperlyBegins`

  Key theorems include:
    * `CallDiagnosis.Path.exists_components_eq`
    * `CallDiagnosis.Path.components_written`
    * `CallDiagnosis.Path.joined_eq_written`
    * `CallDiagnosis.Path.getLast?_steps`
    * `CallDiagnosis.WorkingDirectory.splitting_inverts_joining`

  Whatever the text was, its components below the root are
  pieces between slashes.  Joining such pieces writes them
  down, each behind a slash, and what was written in this way
  is taken apart into the same pieces.  So joining adds to a
  folded path no more than the dot that stands for its last
  slash.
-/

------------------------------------------------------------
-- Texts Written from Components
------------------------------------------------------------

namespace CallDiagnosis

namespace Path

section Written

variable (parts : List (List Char))

theorem written_ne_empty
    (asDirectory : Bool) :
    written parts asDirectory ≠ "" := by
  intro hNone
  have hAbsolute := isAbsolute_written parts asDirectory
  rw [hNone] at hAbsolute
  contradiction

/- A directory is written with one more slash. -/
theorem written_directory
    (hNonempty : parts ≠ []) :
    written parts true = written parts false ++ "/" := by
  simp [written, hNonempty]

/- Behind a last slash a dot is one component more. -/
theorem written_append_dot
    (hNonempty : parts ≠ []) :
    written parts true ++ "." =
      written (parts ++ [['.']]) false := by
  rw [← String.toList_inj]
  simp [written, hNonempty, rooted]

variable (hParts : ∀ part ∈ parts, IsComponent part)

include hParts

theorem isComponent_of_mem_append_dot :
    ∀ part ∈ parts ++ [['.']], IsComponent part := by
  have hDot : IsComponent ['.'] := ⟨by simp, by simp⟩
  rw [List.forall_mem_append]
  exact ⟨hParts, by simpa using hDot⟩

/- What components are written as has more than one byte. -/
theorem one_lt_utf8ByteSize_written
    (hNonempty : parts ≠ [])
    (asDirectory : Bool) :
    1 < (written parts asDirectory).utf8ByteSize := by
  rcases List.exists_cons_of_ne_nil hNonempty with
    ⟨part, others, rfl⟩
  have hPart : IsComponent part := hParts part (by simp)
  have hText : String.ofList part ≠ "" := by
    simpa [← String.toList_inj] using hPart.notEmpty
  have hSize := mt String.utf8ByteSize_eq_zero_iff.mp hText
  have hSplit :
      written (part :: others) false =
        "/" ++ String.ofList part ++
          String.ofList (rooted others) := by
    rw [← String.toList_inj]
    simp [written, rooted]
  have hSlash : "/".utf8ByteSize = 1 := rfl
  have hLong :
      1 < (written (part :: others) false).utf8ByteSize := by
    rw [hSplit, String.utf8ByteSize_append,
      String.utf8ByteSize_append, hSlash]
    omega
  cases asDirectory with
  | false => exact hLong
  | true =>
      rw [written_directory _ hNonempty,
        String.utf8ByteSize_append]
      omega

theorem written_ne_root
    (hNonempty : parts ≠ [])
    (asDirectory : Bool) :
    written parts asDirectory ≠ "/" := by
  intro hRoot
  have hLong :=
    one_lt_utf8ByteSize_written parts hParts hNonempty
      asDirectory
  rw [hRoot] at hLong
  contradiction

/- All but the root is written without a slash at its end. -/
theorem not_endsInSlash_written
    (hNonempty : parts ≠ []) :
    ¬ EndsInSlash (written parts false) := by
  rw [endsInSlash_written_iff parts false hParts hNonempty]
  simp

end Written

end Path

end CallDiagnosis

------------------------------------------------------------
-- Taking a Path Apart
------------------------------------------------------------

namespace CallDiagnosis

namespace Path

/- The components below the root, from the pieces of a text. -/
def below
    (parts : List (List Char)) :
    List String :=
  parts.map String.ofList

/- The names in a text are pieces of it that are not empty. -/
theorem exists_names_eq
    (text : String) :
    ∃ parts,
      (∀ part ∈ parts, IsComponent part) ∧
      names text = below parts := by
  refine ⟨(pieces text.toList).filter (· ≠ []), ?_, rfl⟩
  intro part hPart
  rcases List.mem_filter.mp hPart with ⟨hPiece, hNonempty⟩
  constructor
  · simpa using hNonempty
  · exact slash_not_mem_of_mem_pieces _ part hPiece

/- Below the root of any path there are only components. -/
theorem exists_components_eq
    (path : String) :
    ∃ parts,
      (∀ part ∈ parts, IsComponent part) ∧
      components path = "/" :: below parts := by
  unfold components
  split_ifs with hShort hSlash
  · exact ⟨[], by simp, rfl⟩
  · rcases exists_names_eq (path ++ ".") with
      ⟨parts, hParts, hNames⟩
    exact ⟨parts, hParts, by rw [hNames]⟩
  · rcases exists_names_eq path with ⟨parts, hParts, hNames⟩
    exact ⟨parts, hParts, by rw [hNames]⟩

section Components

variable (parts : List (List Char))
variable (hParts : ∀ part ∈ parts, IsComponent part)

include hParts

/- Components that stand behind slashes are found as names. -/
theorem names_written :
    names (written parts false) = below parts := by
  by_cases hEmpty : parts = []
  · subst hEmpty
    rfl
  · have hPieces :=
      pieces_rooted parts
        (fun part hPart => (hParts part hPart).slashFree)
    have hKept : parts.filter (· ≠ []) = parts := by
      apply List.filter_eq_self.mpr
      intro part hPart
      simpa using (hParts part hPart).notEmpty
    rw [written, if_neg hEmpty, if_neg Bool.false_ne_true,
      names, String.toList_ofList, hPieces,
      List.filter_cons_of_neg (by simp), hKept, below]

/- They are the components of what was written from them. -/
theorem components_written :
    components (written parts false) = "/" :: below parts := by
  by_cases hEmpty : parts = []
  · subst hEmpty
    rfl
  · have hLong :=
      one_lt_utf8ByteSize_written parts hParts hEmpty false
    have hEnd := not_endsInSlash_written parts hParts hEmpty
    rw [components, if_neg (Nat.not_le.mpr hLong), if_neg hEnd,
      names_written parts hParts]

/- A slash at the end is one component more. -/
theorem components_written_directory
    (hNonempty : parts ≠ []) :
    components (written parts true) =
      "/" :: below (parts ++ [['.']]) := by
  have hLong :=
    one_lt_utf8ByteSize_written parts hParts hNonempty true
  have hEnd :=
    (endsInSlash_written_iff parts true hParts hNonempty).mpr
      rfl
  rw [components, if_neg (Nat.not_le.mpr hLong), if_pos hEnd,
    written_append_dot parts hNonempty,
    names_written _ (isComponent_of_mem_append_dot parts hParts)]

end Components

end Path

end CallDiagnosis

------------------------------------------------------------
-- Joining Components
------------------------------------------------------------

namespace CallDiagnosis

namespace Path

/- A path joined from its components, the first one first. -/
def joined
    (cs : List String) :
    String :=
  cs.foldl join ""

/- A visit joins as many components as it has made steps. -/
theorem reach_eq_joined
    (cs : List String)
    (count : Nat) :
    reach cs count = joined (cs.take count) :=
  rfl

section Joined

variable (parts : List (List Char))
variable (hParts : ∀ part ∈ parts, IsComponent part)

include hParts

/- One more component is written behind the others. -/
theorem join_written
    (part : List Char) :
    join (written parts false) (String.ofList part) =
      written (parts ++ [part]) false := by
  by_cases hEmpty : parts = []
  · subst hEmpty
    have hRoot : EndsInSlash "/" := by decide
    simp [written, join, hRoot, rooted]
  · rw [join, if_neg (written_ne_empty parts false),
      if_neg (not_endsInSlash_written parts hParts hEmpty),
      ← String.toList_inj]
    simp [written, hEmpty, rooted]

/- Joining writes down the components below the root. -/
theorem joined_eq_written :
    joined ("/" :: below parts) = written parts false := by
  -- A visit adds components at the end, so the list is taken
  -- apart from there.
  induction parts using List.reverseRecOn with
  | nil => rfl
  | append_singleton parts part ih =>
      have hEarlier := (List.forall_mem_append.mp hParts).1
      have hJoined := ih hEarlier
      unfold joined below at hJoined ⊢
      rw [List.map_append, ← List.cons_append,
        List.foldl_append, hJoined]
      exact join_written parts hEarlier part

end Joined

theorem isAbsolute_joined
    (path : String) :
    IsAbsolute (joined (components path)) := by
  rcases exists_components_eq path with
    ⟨parts, hParts, hComponents⟩
  rw [hComponents, joined_eq_written parts hParts]
  exact isAbsolute_written parts false

/- What was joined is taken apart as the path itself is. -/
theorem components_joined
    (path : String) :
    components (joined (components path)) = components path := by
  rcases exists_components_eq path with
    ⟨parts, hParts, hComponents⟩
  rw [hComponents, joined_eq_written parts hParts,
    components_written parts hParts]

/- Joining adds a dot behind the slash of a directory only. -/
theorem joined_components_written
    (parts : List (List Char))
    (hParts : ∀ part ∈ parts, IsComponent part)
    (asDirectory : Bool) :
    joined (components (written parts asDirectory)) =
      if written parts asDirectory = "/" ∨
          ¬ EndsInSlash (written parts asDirectory) then
        written parts asDirectory
      else
        written parts asDirectory ++ "." := by
  by_cases hEmpty : parts = []
  · subst hEmpty
    rw [written, if_pos rfl, if_pos (Or.inl rfl)]
    rfl
  · cases asDirectory with
    | false =>
        have hEnd := not_endsInSlash_written parts hParts hEmpty
        rw [components_written parts hParts,
          joined_eq_written parts hParts, if_pos (Or.inr hEnd)]
    | true =>
        have hRoot := written_ne_root parts hParts hEmpty true
        have hEnd :=
          (endsInSlash_written_iff parts true hParts
            hEmpty).mpr rfl
        have hAll := isComponent_of_mem_append_dot parts hParts
        rw [components_written_directory parts hParts hEmpty,
          joined_eq_written _ hAll,
          if_neg (by simp [hRoot, hEnd]),
          written_append_dot parts hEmpty]

end Path

end CallDiagnosis

------------------------------------------------------------
-- Visits of a Path
------------------------------------------------------------

namespace CallDiagnosis

namespace Path

/- The last step of a visit adds the last component. -/
theorem getLast?_steps
    (path : String) :
    (steps path).getLast? =
      some
        (stepAt (components path)
          ((components path).length - 1)) := by
  have hPos := length_components_pos path
  have hBound :
      (components path).length - 1 <
        (components path).length := by
    omega
  have hEnd :
      (steps path).drop
          ((components path).length - 1 + 1) = [] := by
    apply List.drop_eq_nil_of_le
    rw [length_steps]
    omega
  have hDrop := drop_steps path _ hBound
  have hLast :
      ((steps path).drop
          ((components path).length - 1)).getLast? =
        (steps path).getLast? := by
    rw [List.getLast?_drop, length_steps,
      if_neg (Nat.not_le.mpr hBound)]
  rw [← hLast, hDrop, hEnd, List.getLast?_singleton]

/- A visit reaches the path joined from all components last. -/
theorem path_getLast?_steps
    (path : String) :
    (steps path).getLast?.map Step.path =
      some (joined (components path)) := by
  have hPos := length_components_pos path
  have hWhole :
      reach (components path) (components path).length =
        joined (components path) := by
    rw [reach_eq_joined, List.take_length]
  rw [getLast?_steps, Option.map_some, stepAt,
    Nat.sub_add_cancel hPos, hWhole]

/- Before that it has reached what the others are joined to. -/
theorem parent_getLast?_steps
    (path : String) :
    (steps path).getLast?.map Step.parent =
      some (joined (components path).dropLast) := by
  rw [getLast?_steps, Option.map_some, List.dropLast_eq_take,
    ← reach_eq_joined, stepAt]

/- One text begins another, and is not the whole of it. -/
def ProperlyBegins
    (beginning text : String) :
    Prop :=
  beginning.toList <+: text.toList ∧ beginning ≠ text

theorem properlyBegins_join
    (base component : String)
    (hComponent : component ≠ "") :
    ProperlyBegins base (join base component) := by
  constructor
  · unfold join
    split_ifs with hBase hSlash
    · rw [hBase, String.toList_empty]
      exact List.nil_prefix
    · rw [String.toList_append]
      exact List.prefix_append _ _
    · rw [String.toList_append, String.toList_append,
        List.append_assoc]
      exact List.prefix_append _ _
  · intro hSame
    have hLonger := utf8ByteSize_lt_join base component hComponent
    rw [← hSame] at hLonger
    exact Nat.lt_irrefl _ hLonger

/- Each path of a visit begins the next one. -/
theorem isChain_stepsFrom
    (base : String)
    (cs : List String)
    (hComponents : ∀ component ∈ cs, component ≠ "") :
    (stepsFrom base cs).IsChain
      (fun step next => ProperlyBegins step.path next.path) := by
  induction cs generalizing base with
  | nil => exact .nil
  | cons component rest ih =>
      rw [List.forall_mem_cons] at hComponents
      have hLater := ih (join base component) hComponents.2
      cases rest with
      | nil => exact .singleton _
      | cons next others =>
          apply List.IsChain.cons_cons _ hLater
          apply properlyBegins_join
          exact hComponents.2 next List.mem_cons_self

theorem isChain_steps
    (path : String) :
    (steps path).IsChain
      (fun step next => ProperlyBegins step.path next.path) := by
  apply isChain_stepsFrom
  intro component hMember
  exact ne_empty_of_mem_components path component hMember

end Path

end CallDiagnosis

------------------------------------------------------------
-- Visits of Paths Seen from a Directory
------------------------------------------------------------

namespace CallDiagnosis

namespace WorkingDirectory

open CallDiagnosis.Path

/- Every path is seen as it would be written from its names. -/
theorem exists_written_eq_resolve
    (w : WorkingDirectory)
    (path : String) :
    ∃ names asDirectory,
      (∀ name ∈ names, IsComponent name) ∧
      w.resolve path = written names asDirectory := by
  have hPlain := plain_foldDots (w.locate path).toList
  refine ⟨_, _, ?_, fold_eq_written (w.locate path)⟩
  intro name hName
  exact (hPlain name hName).isComponent

/-
  Any text is taken apart into the root and components that
  are not empty and have no slash in them, and these, joined
  again, make an absolute path that is taken apart into the
  same components.  A path that was seen from a directory is
  joined again as it is, or with a dot behind the slash at its
  end.  A visit of it comes to the joined path last, and each
  path on the way properly begins the next one.
-/
theorem splitting_inverts_joining
    (text : String)
    (w : WorkingDirectory)
    (path : String) :
    (∃ others,
      components text = "/" :: others ∧
      ∀ component ∈ others,
        component ≠ "" ∧ '/' ∉ component.toList) ∧
    IsAbsolute (joined (components text)) ∧
    components (joined (components text)) = components text ∧
    (steps (w.resolve path)).getLast?.map Step.path =
      some (joined (components (w.resolve path))) ∧
    joined (components (w.resolve path)) =
      (if w.resolve path = "/" ∨
          ¬ EndsInSlash (w.resolve path) then
        w.resolve path
      else
        w.resolve path ++ ".") ∧
    (steps (w.resolve path)).IsChain
      (fun step next =>
        ProperlyBegins step.path next.path) := by
  refine
    ⟨?_, isAbsolute_joined text, components_joined text,
      path_getLast?_steps _, ?_, isChain_steps _⟩
  · rcases exists_components_eq text with
      ⟨parts, hParts, hComponents⟩
    refine ⟨below parts, hComponents, ?_⟩
    intro component hMember
    rcases List.mem_map.mp hMember with ⟨part, hPart, rfl⟩
    constructor
    · simpa [← String.toList_inj] using (hParts part hPart).notEmpty
    · rw [String.toList_ofList]
      exact (hParts part hPart).slashFree
  · rcases w.exists_written_eq_resolve path with
      ⟨names, asDirectory, hNames, hSeen⟩
    rw [hSeen]
    exact joined_components_written names hNames asDirectory

end WorkingDirectory

end CallDiagnosis
