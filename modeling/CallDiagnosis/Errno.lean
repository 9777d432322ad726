/-
  Error numbers of failed calls.

  Key definitions include:
    * `CallDiagnosis.Errno`
    * `CallDiagnosis.Errno.pathResolution`

  A failed call leaves a number behind.  The numbers that the
  library tells apart have names; every other number is
  carried as it is.
-/

------------------------------------------------------------
-- Error Numbers
------------------------------------------------------------

namespace CallDiagnosis

/-
  The number that a failed call leaves behind.  Zero says
  that nothing failed.
-/
structure Errno where
  code : Int32
deriving DecidableEq

end CallDiagnosis

------------------------------------------------------------
-- Named Numbers
------------------------------------------------------------

namespace CallDiagnosis

namespace Errno

/- Nothing failed. -/
def success : Errno :=
  ⟨0⟩

/- The operation is not permitted. -/
def eperm : Errno :=
  ⟨1⟩

/- A file or directory is missing. -/
def enoent : Errno :=
  ⟨2⟩

/- A signal interrupted the call. -/
def eintr : Errno :=
  ⟨4⟩

/- Input or output failed. -/
def eio : Errno :=
  ⟨5⟩

/- The call would have had to wait. -/
def eagain : Errno :=
  ⟨11⟩

/- Memory is exhausted. -/
def enomem : Errno :=
  ⟨12⟩

/- Permission is denied. -/
def eacces : Errno :=
  ⟨13⟩

/- An argument points to a bad address. -/
def efault : Errno :=
  ⟨14⟩

/- A directory was needed and something else was found. -/
def enotdir : Errno :=
  ⟨20⟩

/- A directory was found where none may be. -/
def eisdir : Errno :=
  ⟨21⟩

/- An argument is invalid. -/
def einval : Errno :=
  ⟨22⟩

/- The system has too many open files. -/
def enfile : Errno :=
  ⟨23⟩

/- The process has too many open files. -/
def emfile : Errno :=
  ⟨24⟩

/- The filesystem is read-only. -/
def erofs : Errno :=
  ⟨30⟩

/- A name or a path is too long. -/
def enametoolong : Errno :=
  ⟨36⟩

/- Too many symbolic links were met. -/
def eloop : Errno :=
  ⟨40⟩

/-
  The numbers that resolving a path can raise, whichever
  call was given the path.
-/
def pathResolution : List Errno :=
  [eacces, enoent, eloop, enametoolong, enotdir, eperm]

end Errno

end CallDiagnosis
