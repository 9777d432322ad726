import CallDiagnosis.Path.Components

/-
  Folding of dots in absolute paths.

  Key definitions include:
    * `CallDiagnosis.Path.push`
    * `CallDiagnosis.Path.foldDots`
    * `CallDiagnosis.Path.fold`

  A piece that is empty or a single dot changes nothing, and
  a pair of dots takes back the piece kept last.  There is
  nothing to take back at the root.  The pieces that are left
  make the folded path.  A slash at the end of the text is
  kept, because it says that a directory is meant.
-/

------------------------------------------------------------
-- Dots
------------------------------------------------------------

namespace CallDiagnosis

namespace Path

/- Add a piece to the pieces kept so far, the last one first. -/
def push
    (kept : List (List Char))
    (piece : List Char) :
    List (List Char) :=
  if piece = [] ∨ piece = ['.'] then
    kept
  else if piece = ['.', '.'] then
    kept.tail
  else
    piece :: kept

/- The pieces that are left of a list of pieces, in order. -/
def foldDots
    (parts : List (List Char)) :
    List (List Char) :=
  (parts.foldl push []).reverse

/- The text with a slash in front of each piece. -/
def rooted
    (parts : List (List Char)) :
    List Char :=
  parts.flatMap (fun part => '/' :: part)

/- The folded form of an absolute path. -/
def fold
    (path : String) :
    String :=
  match foldDots (pieces path.toList) with
  | [] => "/"
  | part :: parts =>
      let text := String.ofList (rooted (part :: parts))
      if EndsInSlash path then text ++ "/" else text

end Path

end CallDiagnosis
