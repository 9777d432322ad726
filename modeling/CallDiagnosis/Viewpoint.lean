import CallDiagnosis.Path.Folding

/-
  Where a session sees its paths.

  Key definitions include:
    * `CallDiagnosis.Viewpoint`
    * `CallDiagnosis.WorkingDirectory`

  The paths of a failed call are written from the caller's
  point of view.  A viewpoint turns each into the absolute
  path that is to be looked up, and follows the caller from
  directory to directory.  The plain viewpoint is a working
  directory with all dots folded by the text alone.
-/

------------------------------------------------------------
-- Viewpoints
------------------------------------------------------------

namespace CallDiagnosis

/-
  Places from which paths are seen.  `resolve` gives the
  absolute path to look up, and `enter` follows a change of
  the working directory.
-/
class Viewpoint
    (V : Type) where
  resolve : V → String → String
  enter : V → String → V

end CallDiagnosis

------------------------------------------------------------
-- Working Directories
------------------------------------------------------------

namespace CallDiagnosis

/- A working directory, by its path. -/
structure WorkingDirectory where
  path : String
deriving DecidableEq

namespace WorkingDirectory

/-
  The working directory named by a text.  A text that is not
  absolute is taken from the root; nothing is folded.
-/
def ofPath
    (path : String) :
    WorkingDirectory :=
  if Path.IsAbsolute path then ⟨path⟩ else ⟨"/" ++ path⟩

/- The absolute text that a path stands for, not yet folded. -/
def locate
    (w : WorkingDirectory)
    (path : String) :
    String :=
  if Path.IsAbsolute path then
    path
  else
    w.path ++ "/" ++ path

/- The folded absolute path that a path stands for. -/
def resolve
    (w : WorkingDirectory)
    (path : String) :
    String :=
  Path.fold (w.locate path)

/- A text without its last slash, the root excepted. -/
def withoutLastSlash
    (path : String) :
    String :=
  if 1 < path.utf8ByteSize ∧ Path.EndsInSlash path then
    String.ofList path.toList.dropLast
  else
    path

/- The working directory after a change to a path. -/
def enter
    (w : WorkingDirectory)
    (path : String) :
    WorkingDirectory :=
  ⟨withoutLastSlash (w.resolve path)⟩

end WorkingDirectory

instance : Viewpoint WorkingDirectory where
  resolve := WorkingDirectory.resolve
  enter := WorkingDirectory.enter

end CallDiagnosis
