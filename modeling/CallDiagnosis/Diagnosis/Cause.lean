import CallDiagnosis.File.Status
import CallDiagnosis.Text.Octal

/-
  What made a call fail.

  Key definitions include:
    * `CallDiagnosis.GeneralCause`
    * `CallDiagnosis.Diagnosis`
    * `CallDiagnosis.Diagnosis.text`

  A diagnosis names the cause of a failure together with the
  path, limit or owner to blame.  The sentence that a reader
  sees is read off the cause, here and nowhere else.
-/

------------------------------------------------------------
-- Causes for Every Call
------------------------------------------------------------

namespace CallDiagnosis

/- A cause that means the same for every call. -/
inductive GeneralCause where
| wouldWait
| processFilesExhausted
| systemFilesExhausted
| interrupted
| badAddress
| hardwareFailure
| outOfMemory
| notPrivileged
| unknown
deriving DecidableEq

namespace GeneralCause

/- The sentence for a cause, about the call with a name. -/
def text
    (call : String) :
    GeneralCause → String
| .wouldWait =>
    s!"the {call} system call was waiting to finish but " ++
      "was told not to wait"
| .processFilesExhausted =>
    "the process already has the maximum number of file " ++
      "descriptors open"
| .systemFilesExhausted =>
    "the system limit on the total number of open files " ++
      "has been reached"
| .interrupted =>
    s!"the {call} system call was interrupted by a signal " ++
      "before it could finish"
| .badAddress =>
    s!"one of the {call} parameters is null, " ++
      "uninitialized, or points to invalid/unreachable memory"
| .hardwareFailure =>
    "a low-level filesystem I/O error occurred, probably " ++
      "in hardware"
| .outOfMemory =>
    "there was not enough user-space memory available " ++
      s!"for {call} to succeed"
| .notPrivileged =>
    "the process does not have the appropriate privileges " ++
      s!"to use the {call} system call"
| .unknown =>
    "the entropic gremlins have frobnicated " ++
      s!"the {call} system call"

end GeneralCause

end CallDiagnosis

------------------------------------------------------------
-- Diagnoses
------------------------------------------------------------

namespace CallDiagnosis

/- What a caller wanted to do to a file that exists. -/
inductive Attempt where
| delete
| writeTo
| read
| search
deriving DecidableEq

namespace Attempt

/- The words for an attempt. -/
def verb :
    Attempt → String
| .delete => "delete"
| .writeTo => "write to"
| .read => "read"
| .search => "search"

end Attempt

/- A directory together with what a look at it showed. -/
structure Container where
  path : String
  status : FileStatus
deriving DecidableEq

namespace Container

/- The remark about the directory that contains a file. -/
def remark
    (c : Container) :
    String :=
  let mode := Octal.padded 4 c.status.mode.toNat
  s!"(containing directory '{c.path}' has mode {mode}, " ++
    s!"owner UID {c.status.uid.toNat}, " ++
    s!"group GID {c.status.gid.toNat})"

end Container

/- The cause of a failure, and what is to blame for it. -/
inductive Diagnosis where
| pathTooLong (path : String) (limit : UInt64)
| nameTooLong (name : String) (limit : UInt64)
| unresolvable (path : String)
| missingDirectory (path : String)
| missingLeaf (expected : ExpectedKind) (path : String)
| danglingLink (path : String)
| notDirectory (path : String)
| notSearchable (directory : String)
| notWritable (directory : String)
| tooManyLinks (path : String)
| wrongKind
    (path : String)
    (found : FileKind)
    (expected : ExpectedKind)
| refused
    (attempt : Attempt)
    (expected : ExpectedKind)
    (path : String)
    (container : Option Container)
| openedDirectory (path : String)
| readOnlyFilesystem (path : String)
| unlinkedDirectory (path : String)
| stickyDirectory
    (directory path : String)
    (owner : UInt32)
| kernelMemory (call : String)
| general (call : String) (cause : GeneralCause)
deriving DecidableEq

namespace Diagnosis

/- The sentence for a diagnosis. -/
def text :
    Diagnosis → String
| .pathTooLong path limit =>
    s!"'{path}' exceeds the system maximum path length " ++
      s!"({path.utf8ByteSize} > max {limit.toNat})"
| .nameTooLong name limit =>
    s!"path component '{name}' exceeds the system maximum " ++
      s!"name length ({name.utf8ByteSize} > " ++
      s!"max {limit.toNat})"
| .unresolvable path =>
    s!"path '{path}' is too long to be resolved"
| .missingDirectory path =>
    s!"directory '{path}' does not exist"
| .missingLeaf expected path =>
    s!"{expected.noun} '{path}' does not exist"
| .danglingLink path =>
    s!"symbolic link '{path}' points to a target " ++
      "that does not exist"
| .notDirectory path =>
    s!"path '{path}' does not refer to a directory"
| .notSearchable directory =>
    s!"directory '{directory}' is not searchable by the user"
| .notWritable directory =>
    s!"containing directory '{directory}' is not writable " ++
      "by the user"
| .tooManyLinks path =>
    "too many symbolic links were encountered while " ++
      s!"resolving '{path}'"
| .wrongKind path found expected =>
    s!"path '{path}' is a {found.noun}, " ++
      s!"not a {expected.noun}"
| .refused attempt expected path container =>
    let verdict :=
      "the user does not have permission to " ++
        s!"{attempt.verb} {expected.noun} '{path}'"
    match container with
    | none => verdict
    | some c => verdict ++ " " ++ c.remark
| .openedDirectory path =>
    s!"'{path}' is a directory, which open(2) cannot open " ++
      "for writing"
| .readOnlyFilesystem path =>
    s!"'{path}' is on a read-only filesystem, so open(2) " ++
      "cannot write to or create it"
| .unlinkedDirectory path =>
    s!"'{path}' is a directory, which unlink(2) " ++
      "does not remove"
| .stickyDirectory directory path owner =>
    s!"directory '{directory}' has the sticky bit set and " ++
      s!"'{path}' is owned by UID {owner.toNat}, so only " ++
      "that user or the directory owner may remove it"
| .kernelMemory call =>
    "there was not enough kernel memory available " ++
      s!"for {call} to succeed"
| .general call cause => cause.text call

end Diagnosis

end CallDiagnosis
