import CallDiagnosis.Boundary.Handle

/-
  Answers for a host.

  Key definitions include:
    * `CallDiagnosis.Boundary.Topic`
    * `CallDiagnosis.Boundary.answer`
    * `CallDiagnosis.Boundary.Command`
    * `CallDiagnosis.Boundary.perform`

  A host asks about an error number in general, about a path,
  or about one of five calls.  It gets a status back, and the
  text of the answer in a slot that it offers, if there is
  memory for it.
-/

------------------------------------------------------------
-- Topics
------------------------------------------------------------

namespace CallDiagnosis

namespace Boundary

/- What a host wants to have explained. -/
inductive Topic where
| general (call : TextView)
| path (path : TextView) (intent : UInt32) (expected : Int32)
| openFile (path : TextView) (flags : Int32) (mode : UInt32)
| chroot (path : TextView)
| lstat (path : TextView)
| stat (path : TextView)
| unlink (path : TextView)

/- The kind of file that a host expects, by its number. -/
def expectedOfNumber? :
    Int → Option ExpectedKind
| 0 => some .unspecified
| 1 => some .regular
| 2 => some .directory
| 3 => some .symlink
| _ => none

end Boundary

end CallDiagnosis

------------------------------------------------------------
-- Answers
------------------------------------------------------------

namespace CallDiagnosis

namespace Boundary

/- Put what was found into a slot that has been cleared. -/
def deliver
    (memory : Memory)
    (silence : Status)
    (out : Option Slot) :
    Except Fault (Option String) → Status × Option Slot
| .ok (some text) => write memory text out
| .ok none => (silence, out)
| .error fault => (fault.status, out)

/- Answer about an error number in general. -/
def answerGeneral
    (memory : Memory)
    (e : Errno)
    (call : TextView)
    (out : Option Slot) :
    Status × Option Slot :=
  match call.read? with
  | none => (.invalidArgument, clear out)
  | some name =>
      let found := (describe e name).map (·.map Diagnosis.text)
      deliver memory .notAnError (clear out) found

/- Answer about a path. -/
def answerPath
    (memory : Memory)
    (handle : Handle)
    (e : Errno)
    (path : TextView)
    (intent : UInt32)
    (expected : Int32)
    (out : Option Slot) :
    Consult (Status × Option Slot) := do
  match handle, Intent.ofBits? intent,
      expectedOfNumber? expected.toInt, path.read? with
  | some s, some i, some k, some p =>
      if s.Enabled then
        let found ← walk s.context e p i k
        let texts := found.map (·.map Diagnosis.text)
        return deliver memory .noExplanation (clear out) texts
      else
        return (.disabled, clear out)
  | _, _, _, _ => return (.invalidArgument, clear out)

/- Answer about a failed call, once its path has been read. -/
def answerReadCall
    (memory : Memory)
    (handle : Handle)
    (e : Errno)
    (call : Call)
    (out : Option Slot) :
    Consult (Status × Option Slot) := do
  match handle with
  | none => return (.invalidArgument, clear out)
  | some s =>
      if e = .success then
        return (.notAnError, clear out)
      else
        let found ← s.describe e call
        return deliver memory .notAnError (clear out)
          (found.map some)

/-
  Answer about a failed call.  The path is read before all
  else, and a path that cannot be read leaves the slot as it
  was.
-/
def answerCall
    (memory : Memory)
    (handle : Handle)
    (e : Errno)
    (path : TextView)
    (call : String → Call)
    (out : Option Slot) :
    Consult (Status × Option Slot) := do
  match path.read? with
  | none => return (.invalidArgument, out)
  | some p => answerReadCall memory handle e (call p) out

/- Answer a host. -/
def answer
    (memory : Memory)
    (handle : Handle)
    (e : Errno)
    (out : Option Slot) :
    Topic → Consult (Status × Option Slot)
| .general call => return answerGeneral memory e call out
| .path path intent expected =>
    answerPath memory handle e path intent expected out
| .openFile path flags mode =>
    answerCall memory handle e path (.openFile · flags mode)
      out
| .chroot path => answerCall memory handle e path .chroot out
| .lstat path => answerCall memory handle e path .lstat out
| .stat path => answerCall memory handle e path .stat out
| .unlink path => answerCall memory handle e path .unlink out

end Boundary

end CallDiagnosis

------------------------------------------------------------
-- Commands
------------------------------------------------------------

namespace CallDiagnosis

namespace Boundary

/- What a host can ask for. -/
inductive Command where
| create (raw : Option RawSettings)
| destroy
| changesRoot (path : TextView)
| changedDirectory (path : TextView)
| restart
| watch (label : Option String)
| explain (e : Errno) (topic : Topic) (out : Option Slot)

/- What a host gets back. -/
inductive Answer where
| done
| created (succeeded : Bool)
| status (status : Status)
| explained (status : Status) (out : Option Slot)

/-
  Do what a host asks for, for a process that runs in a
  directory and has memory to grant.  A new session takes the
  place of the old one.
-/
def perform
    (directory : WorkingDirectory)
    (memory : Memory)
    (handle : Handle) :
    Command → Consult (Answer × Handle)
| .create raw => do
    destroy handle
    let created ← create directory raw
    return (.created created.isSome, created)
| .destroy => do
    destroy handle
    return (.done, none)
| .changesRoot path => do
    let (status, after) ← changesRoot handle path
    return (.status status, after)
| .changedDirectory path => do
    let (status, after) ← changedDirectory handle path
    return (.status status, after)
| .restart => do
    let (status, after) ← restart handle
    return (.status status, after)
| .watch label =>
    let (status, after) := watch handle label
    return (.status status, after)
| .explain e topic out => do
    let (status, slot) ← answer memory handle e out topic
    return (.explained status slot, handle)

end Boundary

end CallDiagnosis
