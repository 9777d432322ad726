import CallDiagnosis.Fault
import CallDiagnosis.Log.Record

/-
  Where log records go.

  Key definitions include:
    * `CallDiagnosis.Log.Sink`
    * `CallDiagnosis.Log.Backend`
    * `CallDiagnosis.Log.Backend.deliver?`
    * `CallDiagnosis.Log.Control`
    * `CallDiagnosis.Log.Backend.control`

  Records go to nobody, to standard error, or to a client.
  A record is held back twice over: the process as a whole
  does not pass on what exceeds its ceiling, and the backend
  drops what exceeds its own level.
-/

------------------------------------------------------------
-- Backends
------------------------------------------------------------

namespace CallDiagnosis

namespace Log

/- Who gets the records.  Clients are told apart by a token. -/
inductive Sink where
| nobody
| standardError
| client (token : UInt64)
deriving DecidableEq

/- The ceiling of the process, and the backend below it. -/
structure Backend where
  ceiling : Level
  level : Level
  sink : Sink
deriving DecidableEq

/- A record on its way out. -/
inductive Delivery where
| line (text : String)
| toClient (token : UInt64) (record : Record)
deriving DecidableEq

namespace Record

/- The line that a record takes on standard error. -/
def line
    (r : Record) :
    String :=
  s!"[{Log.target}][{r.severity.label}] {r.message}\n"

end Record

namespace Sink

/- What becomes of a record that reaches a sink. -/
def deliver? :
    Sink → Record → Option Delivery
| .nobody, _ => none
| .standardError, r => some (.line r.line)
| .client token, r => some (.toClient token r)

end Sink

namespace Backend

/- The backend before anybody asked for records. -/
def disabled : Backend :=
  ⟨.off, .off, .nobody⟩

/- A record is let through to the sink. -/
def Passes
    (b : Backend)
    (r : Record) :
    Prop :=
  b.ceiling.Admits r.severity ∧ b.level.Admits r.severity

instance
    (b : Backend)
    (r : Record) :
    Decidable (b.Passes r) :=
  inferInstanceAs
    (Decidable
      (b.ceiling.Admits r.severity ∧
        b.level.Admits r.severity))

/- What becomes of a record. -/
def deliver?
    (b : Backend)
    (r : Record) :
    Option Delivery :=
  if b.Passes r then b.sink.deliver? r else none

/- What becomes of records in order. -/
def deliveries
    (b : Backend)
    (rs : List Record) :
    List Delivery :=
  rs.filterMap b.deliver?

end Backend

end Log

end CallDiagnosis

------------------------------------------------------------
-- Control
------------------------------------------------------------

namespace CallDiagnosis

namespace Log

/-
  What a host can ask of the backend.  A level is a number of
  the host's; a client may be missing.
-/
inductive Control where
| toClient (token : Option UInt64) (level : Int32)
| toStandardError (level : Int32)
| setLevel (level : Int32)
| disable
deriving DecidableEq

namespace Backend

/- Let records through up to a level. -/
def withLevel
    (b : Backend)
    (level : Level) :
    Backend :=
  { b with ceiling := level, level := level }

/- Send records to a sink, up to a level. -/
def withSink
    (b : Backend)
    (sink : Sink)
    (level : Level) :
    Backend :=
  { b with sink := sink }.withLevel level

/- Send records to a client.  Nobody is sent any without one. -/
def withClient
    (b : Backend)
    (token : Option UInt64)
    (level : Level) :
    Backend :=
  match token with
  | some t => b.withSink (.client t) level
  | none => b.withSink .nobody .off

/-
  Change the backend by a level that a host gave as a number.
  A number that is not a level changes nothing.
-/
def change
    (b : Backend)
    (level : Int32)
    (f : Level → Backend) :
    Status × Backend :=
  match Level.ofNumber? level.toInt with
  | some l => (.ok, f l)
  | none => (.invalidArgument, b)

/- Do what a host asks for. -/
def control
    (b : Backend) :
    Control → Status × Backend
| .toClient token level => b.change level (b.withClient token)
| .toStandardError level =>
    b.change level (b.withSink .standardError)
| .setLevel level => b.change level b.withLevel
| .disable => (.ok, b.withSink .nobody .off)

end Backend

end Log

end CallDiagnosis
