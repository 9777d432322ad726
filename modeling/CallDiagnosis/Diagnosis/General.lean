import CallDiagnosis.Diagnosis.Cause
import CallDiagnosis.Errno
import CallDiagnosis.Fault

/-
  Error numbers that mean the same for every call.

  Key definitions include:
    * `CallDiagnosis.GeneralCause.ofErrno`
    * `CallDiagnosis.describe`

  A few numbers have a sentence of their own whichever call
  failed.  All other numbers share one sentence that admits
  to knowing nothing, and zero has none, since nothing failed.
-/

------------------------------------------------------------
-- General Description
------------------------------------------------------------

namespace CallDiagnosis

namespace GeneralCause

/- The general cause behind an error number. -/
def ofErrno
    (e : Errno) :
    GeneralCause :=
  if e = .eagain then .wouldWait
  else if e = .emfile then .processFilesExhausted
  else if e = .enfile then .systemFilesExhausted
  else if e = .eintr then .interrupted
  else if e = .efault then .badAddress
  else if e = .eio then .hardwareFailure
  else if e = .enomem then .outOfMemory
  else if e = .eperm then .notPrivileged
  else .unknown

end GeneralCause

/-
  Describe an error number for the call with a given name.
  The name must not be empty.
-/
def describe
    (e : Errno)
    (call : String) :
    Except Fault (Option Diagnosis) :=
  if call = "" then
    .error (.invalidArgument .systemCall)
  else if e = .success then
    .ok none
  else
    .ok (some (.general call (.ofErrno e)))

end CallDiagnosis
