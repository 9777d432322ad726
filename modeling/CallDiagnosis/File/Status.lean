/-
  What a look at a file shows.

  Key definitions include:
    * `CallDiagnosis.FileKind`
    * `CallDiagnosis.ExpectedKind`
    * `CallDiagnosis.FileStatus`

  A look never follows a link, so a link shows as itself.  A
  caller may expect a kind of file at the end of a path, or
  none in particular.
-/

------------------------------------------------------------
-- File Kinds
------------------------------------------------------------

namespace CallDiagnosis

/- The kind of a file. -/
inductive FileKind where
| regular
| directory
| symlink
| other
deriving DecidableEq

/- The kind of file that a caller expects to find. -/
inductive ExpectedKind where
| unspecified
| regular
| directory
| symlink
deriving DecidableEq

namespace ExpectedKind

/- The word for what was expected. -/
def noun :
    ExpectedKind → String
| .unspecified => "file"
| .regular => "file"
| .directory => "directory"
| .symlink => "symbolic link"

/-
  A caller that expects a file or a directory goes through a
  link at the end of the path.
-/
def FollowsLinks
    (e : ExpectedKind) :
    Prop :=
  e = .regular ∨ e = .directory

instance
    (e : ExpectedKind) :
    Decidable e.FollowsLinks :=
  inferInstanceAs (Decidable (e = .regular ∨ e = .directory))

/- The kind that satisfies an expectation, if it names one. -/
def required? :
    ExpectedKind → Option FileKind
| .unspecified => none
| .regular => some .regular
| .directory => some .directory
| .symlink => some .symlink

end ExpectedKind

namespace FileKind

/- The words for a kind of file. -/
def noun :
    FileKind → String
| .regular => "regular file"
| .directory => "directory"
| .symlink => "symbolic link"
| .other => "special file"

/- A kind is one that a caller with an expectation accepts. -/
def Satisfies
    (k : FileKind)
    (e : ExpectedKind) :
    Prop :=
  ∀ r ∈ e.required?, k = r

instance
    (k : FileKind)
    (e : ExpectedKind) :
    Decidable (k.Satisfies e) :=
  inferInstanceAs (Decidable (∀ r ∈ e.required?, k = r))

end FileKind

end CallDiagnosis

------------------------------------------------------------
-- File Status
------------------------------------------------------------

namespace CallDiagnosis

/- The kind, permission bits, owner and group of a file. -/
structure FileStatus where
  kind : FileKind
  mode : UInt32
  uid : UInt32
  gid : UInt32
deriving DecidableEq

namespace FileStatus

/-
  A path can lead on through a directory.  It may also lead
  on through a link, since the link may lead to a directory.
-/
def Traversable
    (s : FileStatus) :
    Prop :=
  s.kind = .directory ∨ s.kind = .symlink

instance
    (s : FileStatus) :
    Decidable s.Traversable :=
  inferInstanceAs
    (Decidable (s.kind = .directory ∨ s.kind = .symlink))

/-
  In a directory with the sticky bit only the owner of a file
  or of the directory may remove the file.
-/
def Sticky
    (s : FileStatus) :
    Prop :=
  s.mode &&& 0o1000 ≠ 0

instance
    (s : FileStatus) :
    Decidable s.Sticky :=
  inferInstanceAs (Decidable (s.mode &&& 0o1000 ≠ 0))

end FileStatus

end CallDiagnosis
