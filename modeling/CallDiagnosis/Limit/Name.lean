/-
  The limits that a system sets.

  Key definitions include:
    * `CallDiagnosis.PathLimit`
    * `CallDiagnosis.SystemLimit`
    * `CallDiagnosis.Limit`

  Some limits depend on the place in the file tree at which
  they are asked for, others hold for the whole process.
-/

------------------------------------------------------------
-- Limits
------------------------------------------------------------

namespace CallDiagnosis

/- A limit that depends on a path. -/
inductive PathLimit where
| nameMax
| pathMax
| noTrunc
deriving DecidableEq

/- A limit that holds for the whole process. -/
inductive SystemLimit where
| openMax
| childMax
| iovMax
deriving DecidableEq

/- A limit of either sort. -/
inductive Limit where
| ofPath (limit : PathLimit)
| ofSystem (limit : SystemLimit)
deriving DecidableEq

namespace PathLimit

/- The system's name for a limit that depends on a path. -/
def name :
    PathLimit → String
| .nameMax => "NAME_MAX"
| .pathMax => "PATH_MAX"
| .noTrunc => "NO_TRUNC"

end PathLimit

namespace SystemLimit

/- The system's name for a limit of the process. -/
def name :
    SystemLimit → String
| .openMax => "OPEN_MAX"
| .childMax => "CHILD_MAX"
| .iovMax => "IOV_MAX"

end SystemLimit

namespace Limit

/- The system's name for a limit. -/
def name :
    Limit → String
| .ofPath limit => limit.name
| .ofSystem limit => limit.name

end Limit

end CallDiagnosis
