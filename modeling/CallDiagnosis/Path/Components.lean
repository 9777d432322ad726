/-
  Paths as lists of components.

  Key definitions include:
    * `CallDiagnosis.Path.pieces`
    * `CallDiagnosis.Path.components`
    * `CallDiagnosis.Path.join`
    * `CallDiagnosis.Path.steps`

  A path is taken apart at its slashes.  Its first component
  is always the root, and a slash at the end counts as one
  more component that names the directory itself, so that the
  last component always names something that can be looked
  at.  Joining the components from the left visits every
  ancestor of the path in turn; a step of that visit knows
  the path reached so far and the one before it.
-/

------------------------------------------------------------
-- Pieces Between Slashes
------------------------------------------------------------

namespace CallDiagnosis

namespace Path

/-
  The pieces of a text between its slashes, the empty ones
  included.  There is one piece more than there are slashes.
-/
def pieces :
    List Char → List (List Char)
| [] => [[]]
| c :: rest =>
    if c = '/' then
      [] :: pieces rest
    else
      match pieces rest with
      | [] => [[c]]
      | first :: others => (c :: first) :: others

/- The pieces of a text that are not empty, from the left. -/
def names
    (s : String) :
    List String :=
  ((pieces s.toList).filter (· ≠ [])).map String.ofList

/- The text ends in a slash. -/
def EndsInSlash
    (s : String) :
    Prop :=
  s.toList.getLast? = some '/'

instance
    (s : String) :
    Decidable (EndsInSlash s) :=
  inferInstanceAs (Decidable (s.toList.getLast? = some '/'))

/- The text starts with a slash. -/
def IsAbsolute
    (s : String) :
    Prop :=
  s.toList.head? = some '/'

instance
    (s : String) :
    Decidable (IsAbsolute s) :=
  inferInstanceAs (Decidable (s.toList.head? = some '/'))

end Path

end CallDiagnosis

------------------------------------------------------------
-- Components
------------------------------------------------------------

namespace CallDiagnosis

namespace Path

/-
  The components of a path, the root first.  A slash at the
  end becomes a final `.`, and a text of at most one byte is
  the root alone.
-/
def components
    (path : String) :
    List String :=
  if path.utf8ByteSize ≤ 1 then
    ["/"]
  else if EndsInSlash path then
    "/" :: names (path ++ ".")
  else
    "/" :: names path

/- A path extended by one component. -/
def join
    (base component : String) :
    String :=
  if base = "" then
    component
  else if EndsInSlash base then
    base ++ component
  else
    base ++ "/" ++ component

end Path

end CallDiagnosis

------------------------------------------------------------
-- Steps
------------------------------------------------------------

namespace CallDiagnosis

namespace Path

/-
  One step of the visit from the root down to a path: the
  component, the path reached by it, and the path before it.
  Before the root there is the empty path.
-/
structure Step where
  component : String
  parent : String
  path : String
deriving DecidableEq

/- The steps that add the given components to a path. -/
def stepsFrom
    (parent : String) :
    List String → List Step
| [] => []
| component :: rest =>
    let path := join parent component
    ⟨component, parent, path⟩ :: stepsFrom path rest

/- The steps from the root down to a path. -/
def steps
    (path : String) :
    List Step :=
  stepsFrom "" (components path)

end Path

end CallDiagnosis
