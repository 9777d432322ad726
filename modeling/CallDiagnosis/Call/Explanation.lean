import CallDiagnosis.Call.Name
import CallDiagnosis.Errno.Sentences
import CallDiagnosis.Settings.Directive

/-
  Explanations and how they are told.

  Key definitions include:
    * `CallDiagnosis.Explanation`
    * `CallDiagnosis.Explanation.render`

  An explanation of a failed call says which call it was,
  with which arguments, and what made it fail.  Without a
  diagnosis the system's own sentence stands in for it.
-/

------------------------------------------------------------
-- Explanations
------------------------------------------------------------

namespace CallDiagnosis

/- The outcome of explaining one failed call. -/
structure Explanation where
  call : SystemCall
  arguments : String
  diagnosis : Option String
deriving DecidableEq

namespace Explanation

/- The reason for the failure, in one sentence. -/
def reason
    (x : Explanation)
    (e : Errno) :
    String :=
  x.diagnosis.getD e.systemText

/- The text of an explanation at a verbosity. -/
def render
    (x : Explanation)
    (e : Errno) :
    Verbosity → String
| .minimal => x.reason e
| .terse => s!"{x.call.name} failed: {x.reason e}"
| .detailed =>
    s!"{x.call.name} failed ({x.arguments}): {x.reason e}"

end Explanation

end CallDiagnosis
