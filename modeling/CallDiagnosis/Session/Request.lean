import CallDiagnosis.Limit.Request
import CallDiagnosis.Session

/-
  Requests to a session.

  Key definitions include:
    * `CallDiagnosis.Request`
    * `CallDiagnosis.Reply`
    * `CallDiagnosis.Session.perform`

  Everything that can happen to a session, as one type of
  requests, so that a history of a session is a list.  Others
  may use the same registry; what they do to it belongs to
  the history too.
-/

------------------------------------------------------------
-- Requests
------------------------------------------------------------

namespace CallDiagnosis

/- What can happen to a session. -/
inductive Request where
| event (event : Event)
| directive (name : String) (arguments : List String)
| explain (e : Errno) (call : Call)
| describe (e : Errno) (call : Call)
| walk
    (e : Errno)
    (path : String)
    (intent : Intent)
    (expected : ExpectedKind)
| limit (request : LimitRequest)
| watch (signals : SignalCheck)
| guestRegister (name : String)
| guestUnregister (name : String)
deriving DecidableEq

/- What a session has to say. -/
inductive Reply where
| done
| explanation (explanation : Explanation)
| text (text : String)
| diagnosis (diagnosis : Option Diagnosis)
| limit (reply : LimitReply)
deriving DecidableEq

end CallDiagnosis

------------------------------------------------------------
-- Performance
------------------------------------------------------------

namespace CallDiagnosis

namespace Session

variable {V R : Type}

/- The session after somebody else used its registry. -/
def afterGuest
    (s : Session V R)
    (outcome : Except RegistryFault Unit × R) :
    Except Fault Reply × Session V R :=
  ((outcome.1.mapError .ofRegistry).map (fun _ => .done),
    { s with registry := outcome.2 })

/- Carry out a request. -/
def perform
    [Viewpoint V]
    [Registrar R]
    (s : Session V R) :
    Request → Consult (Except Fault Reply × Session V R)
| .event event => do
    let (result, after) ← s.handle event
    return (result.map (fun _ => .done), after)
| .directive name arguments => do
    let (result, after) ← s.directive name arguments
    return (result.map (fun _ => .done), after)
| .explain e call => do
    let result ← s.explain e call
    return (result.map .explanation, s)
| .describe e call => do
    let result ← s.describe e call
    return (result.map .text, s)
| .walk e path intent expected => do
    let result ←
      CallDiagnosis.walk s.context e path intent expected
    return (result.map .diagnosis, s)
| .limit request => do
    let (result, limits) ← s.limits.perform request
    return (result.map .limit, { s with limits := limits })
| .watch signals =>
    return (.ok .done, s.watch signals)
| .guestRegister name =>
    return s.afterGuest
      (Registrar.register s.registry .guest name)
| .guestUnregister name =>
    return s.afterGuest
      (Registrar.unregister s.registry name)

end Session

end CallDiagnosis

------------------------------------------------------------
-- The End of a Session
------------------------------------------------------------

namespace CallDiagnosis

namespace Session

variable {V R : Type}

/-
  End a session.  What it installed is taken back, and only
  the registry outlives it.
-/
def close
    [Registrar R]
    (s : Session V R) :
    Consult R := do
  let released ← s.uninstall
  return released.registry

end Session

end CallDiagnosis
