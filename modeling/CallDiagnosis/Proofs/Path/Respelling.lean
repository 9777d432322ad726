import CallDiagnosis.Proofs.Viewpoint.Composition

/-
  Paths that are spelled in different ways.

  Key definitions include:
    * `CallDiagnosis.Path.Detour`
    * `CallDiagnosis.Path.Respelled`

  Key theorems include:
    * `CallDiagnosis.Path.Detour.exists_idle_pieces`
    * `CallDiagnosis.Path.Respelled.fold_eq`
    * `CallDiagnosis.WorkingDirectory.resolve_respelled`

  A slash may be doubled, a dot may be put behind it, or a
  name together with the step back out of it.  What is left
  of a path when its dots are folded does not change by that,
  wherever in the path it happens and whatever stands around
  it.
-/

------------------------------------------------------------
-- Detours
------------------------------------------------------------

namespace CallDiagnosis

namespace Path

/- What may be written for a slash. -/
inductive Detour :
    String → Prop where
| doubled :
    Detour "//"
| dotted :
    Detour "/./"
| undone
    (name : String)
    (hName : Plain name.toList) :
    Detour ("/" ++ name ++ "/../")

/- A path in which one slash was written in another way. -/
inductive Respelled :
    String → String → Prop where
| around
    (before detour after : String)
    (hDetour : Detour detour) :
    Respelled
      (before ++ "/" ++ after)
      (before ++ detour ++ after)

/-
  A detour puts pieces into a text that change nothing about
  the pieces that are kept, whichever those are.
-/
theorem Detour.exists_idle_pieces
    {detour : String}
    (hDetour : Detour detour) :
    ∃ idle : List (List Char),
      (∀ kept, idle.foldl push kept = kept) ∧
      ∀ before after : String,
        pieces (before ++ detour ++ after).toList =
          pieces before.toList ++ idle ++
            pieces after.toList := by
  cases hDetour with
  | doubled =>
      refine ⟨[[]], fun kept => rfl, ?_⟩
      intro before after
      have hText :
          (before ++ "//" ++ after).toList =
            before.toList ++ '/' :: ([] ++ '/' :: after.toList) :=
        by simp
      rw [hText, pieces_append_slash, pieces_append_slash]
      simp [pieces]
  | dotted =>
      refine ⟨[['.']], fun kept => rfl, ?_⟩
      intro before after
      have hText :
          (before ++ "/./" ++ after).toList =
            before.toList ++
              '/' :: (['.'] ++ '/' :: after.toList) := by
        simp
      rw [hText, pieces_append_slash, pieces_append_slash]
      simp [pieces]
  | undone name hName =>
      refine ⟨[name.toList, ['.', '.']], ?_, ?_⟩
      · intro kept
        rw [List.foldl_cons, push_plain kept _ hName]
        rfl
      · intro before after
        have hText :
            (before ++ ("/" ++ name ++ "/../") ++
                after).toList =
              before.toList ++ '/' :: (name.toList ++
                '/' :: (['.', '.'] ++ '/' :: after.toList)) :=
          by simp
        rw [hText, pieces_append_slash, pieces_append_slash,
          pieces_append_slash,
          pieces_of_slash_not_mem _ hName.slashFree]
        simp [pieces]

/- A detour starts with a slash. -/
theorem Detour.isAbsolute
    {detour : String}
    (hDetour : Detour detour) :
    IsAbsolute detour := by
  cases hDetour with
  | doubled => decide
  | dotted => decide
  | undone name hName => simp [IsAbsolute]

/- A detour ends with a slash. -/
theorem Detour.endsInSlash
    {detour : String}
    (hDetour : Detour detour) :
    EndsInSlash detour := by
  cases hDetour with
  | doubled => decide
  | dotted => decide
  | undone name hName =>
      rw [endsInSlash_append _ _ (by decide)]
      decide

/- A detour is longer than the slash that it stands for. -/
theorem Detour.ne_empty
    {detour : String}
    (hDetour : Detour detour) :
    detour ≠ "" := by
  rintro rfl
  exact absurd hDetour.isAbsolute (by decide)

end Path

end CallDiagnosis

------------------------------------------------------------
-- Respelled Paths
------------------------------------------------------------

namespace CallDiagnosis

namespace Path

namespace Respelled

variable {path other : String}

/- A path with a slash in it is not empty. -/
theorem ne_empty
    (hRespelled : Respelled path other) :
    path ≠ "" ∧ other ≠ "" := by
  cases hRespelled with
  | around before detour after hDetour =>
      simp [hDetour.ne_empty]

/- Either spelling is absolute if the other one is. -/
theorem isAbsolute_iff
    (hRespelled : Respelled path other) :
    IsAbsolute path ↔ IsAbsolute other := by
  cases hRespelled with
  | around before detour after hDetour =>
      rw [String.append_assoc, String.append_assoc]
      by_cases hBefore : before = ""
      · have hSlash : IsAbsolute "/" := by decide
        rw [hBefore, String.empty_append, String.empty_append,
          isAbsolute_append _ _ (by decide),
          isAbsolute_append _ _ hDetour.ne_empty]
        exact iff_of_true hSlash hDetour.isAbsolute
      · rw [isAbsolute_append _ _ hBefore,
          isAbsolute_append _ _ hBefore]

/- Either spelling ends in a slash if the other one does. -/
theorem endsInSlash_iff
    (hRespelled : Respelled path other) :
    EndsInSlash path ↔ EndsInSlash other := by
  cases hRespelled with
  | around before detour after hDetour =>
      by_cases hAfter : after = ""
      · have hSlash : EndsInSlash "/" := by decide
        rw [hAfter, String.append_empty, String.append_empty,
          endsInSlash_append _ _ (by decide),
          endsInSlash_append _ _ hDetour.ne_empty]
        exact iff_of_true hSlash hDetour.endsInSlash
      · rw [endsInSlash_append _ _ hAfter,
          endsInSlash_append _ _ hAfter]

/- The pieces that are left are the same for either spelling. -/
theorem foldDots_eq
    (hRespelled : Respelled path other) :
    foldDots (pieces path.toList) =
      foldDots (pieces other.toList) := by
  cases hRespelled with
  | around before detour after hDetour =>
      rcases hDetour.exists_idle_pieces with
        ⟨idle, hIdle, hPieces⟩
      have hSlash :
          (before ++ "/" ++ after).toList =
            before.toList ++ '/' :: after.toList := by
        simp
      rw [hSlash, pieces_append_slash, hPieces]
      simp only [foldDots, List.foldl_append, hIdle]

/- Either spelling has the same folded form. -/
theorem fold_eq
    (hRespelled : Respelled path other) :
    fold path = fold other :=
  fold_congr path other hRespelled.foldDots_eq
    hRespelled.endsInSlash_iff

/- A text in front of both spellings is part of both. -/
theorem append_left
    (hRespelled : Respelled path other)
    (before : String) :
    Respelled (before ++ path) (before ++ other) := by
  cases hRespelled with
  | around earlier detour after hDetour =>
      simpa only [String.append_assoc] using
        Respelled.around (before ++ earlier) detour after
          hDetour

end Respelled

end Path

namespace WorkingDirectory

open CallDiagnosis.Path

/- From every directory both spellings lead to one place. -/
theorem resolve_respelled
    (w : WorkingDirectory)
    {path other : String}
    (hRespelled : Respelled path other) :
    w.resolve path = w.resolve other := by
  unfold resolve
  apply Respelled.fold_eq
  unfold locate
  by_cases hAbsolute : IsAbsolute path
  · rw [if_pos hAbsolute,
      if_pos (hRespelled.isAbsolute_iff.mp hAbsolute)]
    exact hRespelled
  · have hOther : ¬ IsAbsolute other :=
      fun h => hAbsolute (hRespelled.isAbsolute_iff.mpr h)
    rw [if_neg hAbsolute, if_neg hOther]
    exact hRespelled.append_left (w.path ++ "/")

end WorkingDirectory

end CallDiagnosis
