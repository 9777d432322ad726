import CallDiagnosis.Errno
import CallDiagnosis.Fault
import CallDiagnosis.File.Status
import CallDiagnosis.Inquiry.Basic

/-
  The questions of the library.

  Key definitions include:
    * `CallDiagnosis.SignalCheck`
    * `CallDiagnosis.Question`
    * `CallDiagnosis.Consult`

  An explanation may look at a file without following links,
  ask as which user permissions are checked, ask for a limit,
  and let the host service pending signals.
-/

------------------------------------------------------------
-- Questions
------------------------------------------------------------

namespace CallDiagnosis

/-
  The check that services pending signals.  A session starts
  with one that has nothing to do; a host may put its own,
  known by a label, in its place.
-/
inductive SignalCheck where
| idle
| ofHost (label : String)
deriving DecidableEq

/- A question to the world around a session. -/
inductive Question where
| probe (path : String)
| effectiveUid
| pathLimit (limit : PathLimit) (path : String)
| systemLimit (limit : SystemLimit)
| signal (check : SignalCheck)
deriving DecidableEq

namespace Question

/- The type of the answers to a question. -/
abbrev Answer :
    Question → Type
| .probe _ => Except Errno FileStatus
| .effectiveUid => UInt32
| .pathLimit _ _ => Except Fault Int64
| .systemLimit _ => Except Fault Int64
| .signal _ => Unit

end Question

/- The questions of the library with their answers. -/
abbrev surroundings : Vocabulary :=
  ⟨Question, Question.Answer⟩

/- An inquiry in the questions of the library. -/
abbrev Consult
    (α : Type) :
    Type :=
  Inquiry surroundings α

end CallDiagnosis

------------------------------------------------------------
-- Asking
------------------------------------------------------------

namespace CallDiagnosis

namespace Consult

/- Look at a file without following a link at the end. -/
def probe
    (path : String) :
    Consult (Except Errno FileStatus) :=
  .ask (.probe path) .done

/- Ask as which user permissions are checked. -/
def effectiveUid : Consult UInt32 :=
  .ask .effectiveUid .done

/- Ask for the present value of a limit at a path. -/
def pathLimit
    (limit : PathLimit)
    (path : String) :
    Consult (Except Fault Int64) :=
  .ask (.pathLimit limit path) .done

/- Ask for the present value of a limit of the process. -/
def systemLimit
    (limit : SystemLimit) :
    Consult (Except Fault Int64) :=
  .ask (.systemLimit limit) .done

/- Let a check service pending signals. -/
def signal
    (check : SignalCheck) :
    Consult Unit :=
  .ask (.signal check) .done

end Consult

end CallDiagnosis
