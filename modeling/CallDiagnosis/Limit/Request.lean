import CallDiagnosis.Limit.Cache

/-
  Requests to the limits of a session.

  Key definitions include:
    * `CallDiagnosis.LimitRequest`
    * `CallDiagnosis.LimitReply`
    * `CallDiagnosis.LimitCache.perform`

  Everything that can be asked of a cache of limits, as one
  type of requests, so that a history of a cache is a list.
-/

------------------------------------------------------------
-- Requests
------------------------------------------------------------

namespace CallDiagnosis

/- What can be asked of a cache of limits. -/
inductive LimitRequest where
| nameMax (path : String)
| pathMax (path : String)
| noTruncation (path : String)
| systemLimit (limit : SystemLimit)
| capture (path : String)
| reset
deriving DecidableEq

/- What a cache of limits has to say. -/
inductive LimitReply where
| done
| number (value : UInt64)
| verdict (holds : Bool)
deriving DecidableEq

namespace LimitCache

/- Carry out a request. -/
def perform
    (c : LimitCache) :
    LimitRequest →
      Consult (Except Fault LimitReply × LimitCache)
| .nameMax path => do
    let value ← c.nameMax path
    return (value.map .number, c)
| .pathMax path => do
    let value ← c.pathMax path
    return (value.map .number, c)
| .noTruncation path => do
    let holds ← c.noTruncation path
    return (holds.map .verdict, c)
| .systemLimit limit => do
    let value ← systemLimit limit
    return (value.map .number, c)
| .capture path => do
    let (taken, after) ← c.capture path
    return (taken.map .verdict, after)
| .reset =>
    return (.ok .done, c.reset)

end LimitCache

end CallDiagnosis
