import CallDiagnosis.Consult

/-
  Limits with a memory.

  Key definitions include:
    * `CallDiagnosis.LimitSnapshot`
    * `CallDiagnosis.LimitCache`
    * `CallDiagnosis.LimitCache.lookup`
    * `CallDiagnosis.LimitCache.capture`

  Once a process is confined to a subtree, a path no longer
  means what it meant before, and neither does a limit asked
  for at it.  So the limits are captured just before, and a
  captured value is used in place of any later answer.  A
  limit that could not be captured, or was not positive, is
  still asked for each time.  Only the first capture counts
  until the cache is reset.
-/

------------------------------------------------------------
-- Snapshots
------------------------------------------------------------

namespace CallDiagnosis

/- The limits as they were reported at one moment. -/
structure LimitSnapshot where
  nameMax : Option Int64
  noTrunc : Option Int64
  pathMax : Option Int64
deriving DecidableEq

namespace LimitSnapshot

/- What was reported for a limit. -/
def get?
    (s : LimitSnapshot) :
    PathLimit → Option Int64
| .nameMax => s.nameMax
| .noTrunc => s.noTrunc
| .pathMax => s.pathMax

end LimitSnapshot

/- The captured limits, if any were captured. -/
structure LimitCache where
  snapshot : Option LimitSnapshot
deriving DecidableEq

namespace LimitCache

/- A cache with nothing captured. -/
def empty : LimitCache :=
  ⟨none⟩

/- Limits have been captured. -/
def captured
    (c : LimitCache) :
    Bool :=
  c.snapshot.isSome

/- The captured value of a limit, if it is usable. -/
def held?
    (c : LimitCache)
    (limit : PathLimit) :
    Option Int64 :=
  (c.snapshot.bind (·.get? limit)).filter (0 < ·)

end LimitCache

end CallDiagnosis

------------------------------------------------------------
-- Queries
------------------------------------------------------------

namespace CallDiagnosis

namespace LimitCache

/- The value of a limit at a path, the captured one first. -/
def lookup
    (c : LimitCache)
    (limit : PathLimit)
    (path : String) :
    Consult (Except Fault Int64) :=
  if path = "" then
    return .error (.invalidArgument .path)
  else
    match c.held? limit with
    | some value => return .ok value
    | none => Consult.pathLimit limit path

/- The longest name at a path, in bytes. -/
def nameMax
    (c : LimitCache)
    (path : String) :
    Consult (Except Fault UInt64) := do
  let value ← c.lookup .nameMax path
  return value.map Int64.toUInt64

/- The longest path at a path, in bytes. -/
def pathMax
    (c : LimitCache)
    (path : String) :
    Consult (Except Fault UInt64) := do
  let value ← c.lookup .pathMax path
  return value.map Int64.toUInt64

/- Names that are too long are refused, not cut short. -/
def noTruncation
    (c : LimitCache)
    (path : String) :
    Consult (Except Fault Bool) := do
  let value ← c.lookup .noTrunc path
  return value.map (0 < ·)

/- The present value of a limit of the process. -/
def systemLimit
    (limit : SystemLimit) :
    Consult (Except Fault UInt64) := do
  let value ← Consult.systemLimit limit
  return value.map Int64.toUInt64

end LimitCache

end CallDiagnosis

------------------------------------------------------------
-- Capture
------------------------------------------------------------

namespace CallDiagnosis

namespace LimitCache

/- The value that an answer reports, if it reports one. -/
def reported? :
    Except Fault Int64 → Option Int64
| .ok value => some value
| .error _ => none

/-
  Ask for one limit and note what was captured.  A limit that
  is not reported is noted as minus one.
-/
def captureLimit
    (limit : PathLimit)
    (path : String) :
    Consult (Option Int64) := do
  let value := reported? (← Consult.pathLimit limit path)
  let number := (value.getD (-1)).toInt
  Inquiry.log .trace
    s!"captured {limit.name} = {number} for '{path}'"
  return value

/-
  Capture the limits at a path.  The answer says whether they
  were captured now, which happens only if they were not
  captured before.
-/
def capture
    (c : LimitCache)
    (path : String) :
    Consult (Except Fault Bool × LimitCache) := do
  if path = "" then
    return (.error (.invalidArgument .path), c)
  else if c.captured then
    Inquiry.log .debug
      ("limits already captured for this session; " ++
        s!"ignoring chroot to '{path}'")
    return (.ok false, c)
  else
    let nameMax ← captureLimit .nameMax path
    let noTrunc ← captureLimit .noTrunc path
    let pathMax ← captureLimit .pathMax path
    return (.ok true, ⟨some ⟨nameMax, noTrunc, pathMax⟩⟩)

/- Forget what was captured. -/
def reset
    (_c : LimitCache) :
    LimitCache :=
  empty

end LimitCache

end CallDiagnosis
