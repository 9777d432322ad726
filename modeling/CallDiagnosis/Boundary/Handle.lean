import CallDiagnosis.Boundary.View
import CallDiagnosis.Session.Request

/-
  Sessions as hosts hold them.

  Key definitions include:
    * `CallDiagnosis.Boundary.RawSettings`
    * `CallDiagnosis.Boundary.Handle`
    * `CallDiagnosis.Boundary.create`
    * `CallDiagnosis.Boundary.restart`

  A host holds a session by a handle, which may be null.  It
  creates the session from a record of numbers, reports its
  events, and gets a status back for each.
-/

------------------------------------------------------------
-- Handles
------------------------------------------------------------

namespace CallDiagnosis

namespace Boundary

/-
  The settings as a host writes them down, with the size of
  the record that it knows.
-/
structure RawSettings where
  size : UInt32
  flags : UInt32
  verbosity : Int32
deriving DecidableEq

/- The size of the record that this library knows. -/
def RawSettings.fullSize : UInt32 :=
  48

/- A session with a registry of its own. -/
abbrev HostSession : Type :=
  Session WorkingDirectory Roster

/- A session in the hands of a host, or the null handle. -/
abbrev Handle : Type :=
  Option HostSession

/- The status of a request that has nothing else to say. -/
def statusOf :
    Except Fault Unit → Status
| .ok () => .ok
| .error fault => fault.status

end Boundary

end CallDiagnosis

------------------------------------------------------------
-- Creation
------------------------------------------------------------

namespace CallDiagnosis

namespace Boundary

/-
  The settings that a host asks for.  Without a record it gets
  the standard ones, and a record that is too small is not
  read at all.
-/
def readSettings :
    Option RawSettings → Consult (Option Settings)
| none => return some .standard
| some raw => do
    if raw.size < RawSettings.fullSize then
      Inquiry.log .debug
        s!"rejecting config of size {raw.size.toNat}"
      return none
    else
      return some (← Settings.ofHost raw.flags raw.verbosity)

/-
  Create a session that sees paths from a directory, and let
  it install its explanations.
-/
def create
    (directory : WorkingDirectory)
    (raw : Option RawSettings) :
    Consult Handle := do
  match ← readSettings raw with
  | none => return none
  | some settings =>
      let s := Session.start settings directory Roster.empty
      let (result, ready) ← s.handle .settingsRead
      match result with
      | .ok () => pure ()
      | .error fault => Inquiry.log .warn fault.message
      return some ready

/- End a session, if there is one. -/
def destroy :
    Handle → Consult Unit
| none => return ()
| some s => do
    let _roster ← s.close
    return ()

end Boundary

end CallDiagnosis

------------------------------------------------------------
-- Events
------------------------------------------------------------

namespace CallDiagnosis

namespace Boundary

/- Let a session handle an event. -/
def handleEvent
    (s : HostSession)
    (event : Event) :
    Consult (Status × HostSession) := do
  let (result, after) ← s.handle event
  return (statusOf result, after)

/- Let a session handle an event about a path. -/
def pathEvent
    (handle : Handle)
    (path : TextView)
    (event : String → Event) :
    Consult (Status × Handle) := do
  match handle, path.read? with
  | some s, some p =>
      let (status, after) ← handleEvent s (event p)
      return (status, some after)
  | _, _ => return (.invalidArgument, handle)

/- The host is about to change its root. -/
def changesRoot
    (handle : Handle)
    (path : TextView) :
    Consult (Status × Handle) :=
  pathEvent handle path .changesRoot

/- The host has changed its working directory. -/
def changedDirectory
    (handle : Handle)
    (path : TextView) :
    Consult (Status × Handle) :=
  pathEvent handle path .changedDirectory

/-
  The host restarts.  The session forgets its limits and
  installs its explanations anew.
-/
def restart :
    Handle → Consult (Status × Handle)
| none => return (.invalidArgument, none)
| some s => do
    let (status, released) ← handleEvent s .restart
    if status = .ok then
      let (status, ready) ← handleEvent released .settingsRead
      return (status, some ready)
    else
      return (status, some released)

/-
  The host puts its own check for pending signals in place, or
  takes it back.
-/
def watch
    (handle : Handle)
    (label : Option String) :
    Status × Handle :=
  match handle with
  | none => (.invalidArgument, none)
  | some s =>
      let signals :=
        match label with
        | none => .idle
        | some l => .ofHost l
      (.ok, some (s.watch signals))

end Boundary

end CallDiagnosis
