import CallDiagnosis.File.Intent
import CallDiagnosis.Text.Octal

/-
  The flags and the mode with which a file is opened.

  Key definitions include:
    * `CallDiagnosis.AccessMode`
    * `CallDiagnosis.OpenFlag`
    * `CallDiagnosis.OpenFlags.text`
    * `CallDiagnosis.OpenFlags.intent`

  The lowest two bits of the flags say how the file is
  accessed.  Of the other bits only five have a meaning here;
  the rest are neither shown nor taken into account.
-/

------------------------------------------------------------
-- Flags
------------------------------------------------------------

namespace CallDiagnosis

/- How an opened file is accessed. -/
inductive AccessMode where
| readOnly
| writeOnly
| readWrite
deriving DecidableEq

/- A flag with a meaning of its own. -/
inductive OpenFlag where
| append
| create
| exclusive
| nonBlocking
| truncate
deriving DecidableEq

namespace AccessMode

/- The name of an access mode. -/
def name :
    AccessMode → String
| .readOnly => "O_RDONLY"
| .writeOnly => "O_WRONLY"
| .readWrite => "O_RDWR"

/- The access mode that the lowest two bits stand for. -/
def ofFlags
    (flags : Int32) :
    AccessMode :=
  if flags &&& 3 = 0 then .readOnly
  else if flags &&& 3 = 1 then .writeOnly
  else .readWrite

end AccessMode

namespace OpenFlag

/- The flags in the order in which they are shown. -/
def all : List OpenFlag :=
  [.append, .create, .exclusive, .nonBlocking, .truncate]

/- The name of a flag. -/
def name :
    OpenFlag → String
| .append => "O_APPEND"
| .create => "O_CREAT"
| .exclusive => "O_EXCL"
| .nonBlocking => "O_NONBLOCK"
| .truncate => "O_TRUNC"

/- The bit of a flag. -/
def bit :
    OpenFlag → Int32
| .append => 0o2000
| .create => 0o100
| .exclusive => 0o200
| .nonBlocking => 0o4000
| .truncate => 0o1000

/- A flag is set in a flag word. -/
def IsSet
    (flag : OpenFlag)
    (flags : Int32) :
    Prop :=
  flags &&& flag.bit ≠ 0

instance
    (flag : OpenFlag)
    (flags : Int32) :
    Decidable (flag.IsSet flags) :=
  inferInstanceAs (Decidable (flags &&& flag.bit ≠ 0))

end OpenFlag

end CallDiagnosis

------------------------------------------------------------
-- Flag Words
------------------------------------------------------------

namespace CallDiagnosis

namespace OpenFlags

/- The names of the access mode and the flags of a word. -/
def names
    (flags : Int32) :
    List String :=
  (AccessMode.ofFlags flags).name ::
    (OpenFlag.all.filter (·.IsSet flags)).map OpenFlag.name

/- The text of a flag word. -/
def text
    (flags : Int32) :
    String :=
  "|".intercalate (names flags)

/- The text of a permission mode. -/
def modeText
    (mode : UInt32) :
    String :=
  Octal.padded 3 mode.toNat

/- What an access mode wants from a path. -/
def accessIntent :
    AccessMode → Intent
| .readOnly => .wantRead ||| .wantSearch
| .writeOnly => .wantWrite
| .readWrite => .wantRead ||| .wantWrite

/- What the creation flags want from a path. -/
def creationIntent
    (flags : Int32) :
    Intent :=
  if OpenFlag.create.IsSet flags then
    if OpenFlag.exclusive.IsSet flags then
      .wantCreate ||| .mustNotExist
    else
      .wantCreate
  else
    .mustExist

/- What the truncation flag wants from a path. -/
def truncationIntent
    (flags : Int32) :
    Intent :=
  if OpenFlag.truncate.IsSet flags then
    .wantModify
  else
    ⟨0⟩

/- What a flag word wants from a path. -/
def intent
    (flags : Int32) :
    Intent :=
  accessIntent (.ofFlags flags) ||| creationIntent flags |||
    truncationIntent flags

end OpenFlags

end CallDiagnosis
