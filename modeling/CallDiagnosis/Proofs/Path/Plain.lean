import CallDiagnosis.Path.Folding
import Mathlib.Tactic.SplitIfs

/-
  What is left of a path once its dots are folded.

  Key definitions include:
    * `CallDiagnosis.Path.IsComponent`
    * `CallDiagnosis.Path.Plain`

  Key theorems include:
    * `CallDiagnosis.Path.pieces_append_slash`
    * `CallDiagnosis.Path.pieces_rooted`
    * `CallDiagnosis.Path.getLast?_rooted_ne`
    * `CallDiagnosis.Path.plain_foldDots`
    * `CallDiagnosis.Path.foldDots_append_congr`

  Folding leaves pieces that stand for themselves, and such
  pieces are left alone when they are folded again.  So a path
  can be folded part by part, from the left.
-/

------------------------------------------------------------
-- Pieces of Composed Texts
------------------------------------------------------------

namespace CallDiagnosis

namespace Path

/- Even an empty text has a piece. -/
theorem pieces_ne_nil
    (text : List Char) :
    pieces text ≠ [] := by
  cases text with
  | nil => simp [pieces]
  | cons c rest =>
      by_cases hSlash : c = '/'
      · simp [pieces, hSlash]
      · cases hRest : pieces rest with
        | nil => simp [pieces, hSlash, hRest]
        | cons first others => simp [pieces, hSlash, hRest]

/- A slash between two texts keeps their pieces apart. -/
theorem pieces_append_slash
    (before after : List Char) :
    pieces (before ++ '/' :: after) =
      pieces before ++ pieces after := by
  induction before with
  | nil => simp [pieces]
  | cons c rest ih =>
      by_cases hSlash : c = '/'
      · simp [pieces, hSlash, ih]
      · cases hRest : pieces rest with
        | nil => exact absurd hRest (pieces_ne_nil rest)
        | cons first others =>
            simp [pieces, hSlash, ih, hRest]

/- Pieces stand between slashes. -/
theorem slash_not_mem_of_mem_pieces
    (text piece : List Char)
    (hPiece : piece ∈ pieces text) :
    '/' ∉ piece := by
  induction text generalizing piece with
  | nil =>
      rw [pieces, List.mem_singleton] at hPiece
      simp [hPiece]
  | cons c rest ih =>
      by_cases hSlash : c = '/'
      · rw [pieces, if_pos hSlash, List.mem_cons] at hPiece
        rcases hPiece with rfl | hPiece
        · simp
        · exact ih piece hPiece
      · cases hRest : pieces rest with
        | nil => exact absurd hRest (pieces_ne_nil rest)
        | cons first others =>
            rw [pieces, if_neg hSlash, hRest, List.mem_cons]
              at hPiece
            rcases hPiece with rfl | hPiece
            · have hFirst : '/' ∉ first :=
                ih first (by simp [hRest])
              simp [hFirst, Ne.symm hSlash]
            · exact ih piece (by simp [hRest, hPiece])

/- A text without a slash is one piece. -/
theorem pieces_of_slash_not_mem
    (text : List Char)
    (hText : '/' ∉ text) :
    pieces text = [text] := by
  induction text with
  | nil => rfl
  | cons c rest ih =>
      rw [List.mem_cons, not_or] at hText
      simp [pieces, Ne.symm hText.1, ih hText.2]

/- Pieces that were put behind slashes are found again. -/
theorem pieces_rooted
    (parts : List (List Char))
    (hParts : ∀ part ∈ parts, '/' ∉ part) :
    pieces (rooted parts) = [] :: parts := by
  induction parts with
  | nil => rfl
  | cons part parts ih =>
      rw [List.forall_mem_cons] at hParts
      have hRest := ih hParts.2
      cases parts with
      | nil =>
          simp [rooted, pieces,
            pieces_of_slash_not_mem part hParts.1]
      | cons other others =>
          have hSplit :
              rooted (part :: other :: others) =
                ('/' :: part) ++
                  '/' :: (other ++ rooted others) := by
            simp [rooted]
          have hOthers :
              pieces (other ++ rooted others) =
                other :: others := by
            simpa [rooted, pieces] using hRest
          rw [hSplit, pieces_append_slash, hOthers]
          simp [pieces, pieces_of_slash_not_mem part hParts.1]

end Path

end CallDiagnosis

------------------------------------------------------------
-- Pieces that are Components
------------------------------------------------------------

namespace CallDiagnosis

namespace Path

/- A piece that can be a component below the root. -/
structure IsComponent
    (piece : List Char) :
    Prop where
  notEmpty : piece ≠ []
  slashFree : '/' ∉ piece

/- A component does not end in a slash. -/
theorem IsComponent.getLast?_ne
    {piece : List Char}
    (hPiece : IsComponent piece) :
    piece.getLast? ≠ some '/' := by
  intro hSlash
  exact hPiece.slashFree (List.mem_of_getLast? hSlash)

/- A text that is made of components does not either. -/
theorem getLast?_rooted_ne
    (parts : List (List Char))
    (hParts : ∀ part ∈ parts, IsComponent part) :
    (rooted parts).getLast? ≠ some '/' := by
  cases hLast : parts.getLast? with
  | none =>
      rw [List.getLast?_eq_none_iff] at hLast
      simp [hLast, rooted]
  | some part =>
      rcases List.getLast?_eq_some_iff.mp hLast with
        ⟨others, rfl⟩
      have hPart : IsComponent part := hParts part (by simp)
      have hSplit :
          rooted (others ++ [part]) =
            (rooted others ++ ['/']) ++ part := by
        simp [rooted]
      have hEnd := hPart.getLast?_ne
      rw [List.getLast?_eq_some_getLast hPart.notEmpty] at hEnd
      rwa [hSplit, List.getLast?_append,
        List.getLast?_eq_some_getLast hPart.notEmpty,
        Option.some_or]

end Path

end CallDiagnosis

------------------------------------------------------------
-- Plain Pieces
------------------------------------------------------------

namespace CallDiagnosis

namespace Path

/- A piece of a path that stands for itself. -/
structure Plain
    (piece : List Char) :
    Prop where
  notEmpty : piece ≠ []
  notDot : piece ≠ ['.']
  notDots : piece ≠ ['.', '.']
  slashFree : '/' ∉ piece

/- A plain piece can be a component. -/
theorem Plain.isComponent
    {piece : List Char}
    (hPiece : Plain piece) :
    IsComponent piece :=
  ⟨hPiece.notEmpty, hPiece.slashFree⟩

/- A plain piece is kept. -/
theorem push_plain
    (kept : List (List Char))
    (piece : List Char)
    (hPiece : Plain piece) :
    push kept piece = piece :: kept := by
  simp [push, hPiece.notEmpty, hPiece.notDot,
    hPiece.notDots]

/- If plain pieces are kept, only plain pieces are kept next. -/
theorem plain_push
    (kept : List (List Char))
    (piece : List Char)
    (hKept : ∀ part ∈ kept, Plain part)
    (hPiece : '/' ∉ piece) :
    ∀ part ∈ push kept piece, Plain part := by
  unfold push
  split_ifs with hNothing hDots
  · exact hKept
  · intro part hPart
    exact hKept part (List.mem_of_mem_tail hPart)
  · rw [not_or] at hNothing
    rw [List.forall_mem_cons]
    exact ⟨⟨hNothing.1, hNothing.2, hDots, hPiece⟩, hKept⟩

theorem plain_foldl_push
    (kept parts : List (List Char))
    (hKept : ∀ part ∈ kept, Plain part)
    (hParts : ∀ part ∈ parts, '/' ∉ part) :
    ∀ part ∈ parts.foldl push kept, Plain part := by
  induction parts generalizing kept with
  | nil => exact hKept
  | cons piece parts ih =>
      rw [List.forall_mem_cons] at hParts
      exact ih (push kept piece)
        (plain_push kept piece hKept hParts.1) hParts.2

/- Only plain pieces are left of a text. -/
theorem plain_foldDots
    (text : List Char) :
    ∀ part ∈ foldDots (pieces text), Plain part := by
  intro part hPart
  have hKept :=
    plain_foldl_push [] (pieces text) (by simp)
      (slash_not_mem_of_mem_pieces text)
  exact hKept part (by simpa [foldDots] using hPart)

/- Plain pieces are all kept, the last one first. -/
theorem foldl_push_plain
    (kept parts : List (List Char))
    (hParts : ∀ part ∈ parts, Plain part) :
    parts.foldl push kept = parts.reverse ++ kept := by
  induction parts generalizing kept with
  | nil => rfl
  | cons piece parts ih =>
      rw [List.forall_mem_cons] at hParts
      rw [List.foldl_cons, push_plain kept piece hParts.1,
        ih _ hParts.2]
      simp

/- What was left of earlier pieces stands for all of them. -/
theorem foldDots_append_congr
    (parts earlier later : List (List Char))
    (hSame : foldDots parts = foldDots earlier) :
    foldDots (parts ++ later) =
      foldDots (earlier ++ later) := by
  have hKept :
      parts.foldl push [] = earlier.foldl push [] :=
    List.reverse_inj.mp hSame
  simp only [foldDots, List.foldl_append, hKept]

/- What is left of a text is left alone by a second folding. -/
theorem foldDots_pieces_rooted
    (text : List Char) :
    foldDots
        (pieces (rooted (foldDots (pieces text)))) =
      foldDots (pieces text) := by
  have hPlain := plain_foldDots text
  have hPieces :=
    pieces_rooted (foldDots (pieces text))
      (fun part hPart => (hPlain part hPart).slashFree)
  rw [hPieces]
  change
    ((foldDots (pieces text)).foldl push []).reverse = _
  rw [foldl_push_plain [] _ hPlain]
  simp

end Path

end CallDiagnosis
