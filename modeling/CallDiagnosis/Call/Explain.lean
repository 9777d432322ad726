import CallDiagnosis.Call.Arguments
import CallDiagnosis.Call.Explanation
import CallDiagnosis.Call.OpenFlags
import CallDiagnosis.Diagnosis.General
import CallDiagnosis.Path.Ancestors
import CallDiagnosis.Walk

/-
  Explaining failed calls.

  Key definitions include:
    * `CallDiagnosis.Explainer`
    * `CallDiagnosis.Explain.walkOrDescribe`
    * `CallDiagnosis.Explain.explainerFor`

  Five calls are explained.  Each first tries what only this
  call can fail with, then walks down its path if the error
  can come from resolving a path, and falls back on the
  general description.  The other calls are declined.
-/

------------------------------------------------------------
-- Common Parts
------------------------------------------------------------

namespace CallDiagnosis

/- How a failed call of one sort is explained. -/
abbrev Explainer : Type :=
  Context → Errno → Call →
    Consult (Except Fault Explanation)

namespace Explain

/- What was found, or that there was no answer. -/
abbrev Finding : Type :=
  Except Fault (Option Diagnosis)

/-
  Walk down the path if the error can come from resolving it.
  If the walk finds nothing, describe the error in general.
-/
def walkOrDescribe
    (c : Context)
    (e : Errno)
    (call : SystemCall)
    (path : String)
    (intent : Intent)
    (expected : ExpectedKind) :
    Consult Finding := do
  if e ∈ Errno.pathResolution then
    match ← walk c e path intent expected with
    | .error fault => return .error fault
    | .ok (some diagnosis) => return .ok (some diagnosis)
    | .ok none => return describe e call.name
  else
    return describe e call.name

/- The explanation of a call, from what was found. -/
def explanation
    (call : SystemCall)
    (arguments : String)
    (finding : Finding) :
    Except Fault Explanation :=
  finding.map (fun diagnosis =>
    ⟨call, arguments, diagnosis.map Diagnosis.text⟩)

/- Explain a call by a path that must not be empty. -/
def withPath
    (call : SystemCall)
    (path arguments : String)
    (find : Consult Finding) :
    Consult (Except Fault Explanation) := do
  if path = "" then
    return .error (.invalidArgument .path)
  else
    return explanation call arguments (← find)

/- The text of an argument list that is a single path. -/
def pathText
    (path : String) :
    String :=
  s!"path = '{path}'"

/- Refuse the arguments of another call. -/
def refuse
    (call : Call) :
    Consult (Except Fault Explanation) := do
  Inquiry.log .debug
    s!"explainer received arguments for {call.systemCall.name}"
  return .error (.invalidArgument .arguments)

/- Decline a call whose errors are not explained. -/
def decline : Explainer :=
  fun _ _ call =>
    return .error (.notImplemented call.systemCall)

end Explain

end CallDiagnosis

------------------------------------------------------------
-- Status Calls and Change of the Root
------------------------------------------------------------

namespace CallDiagnosis

namespace Explain

/- Explain a look that follows links. -/
def stat : Explainer
| c, e, .stat path =>
    withPath .stat path (pathText path)
      (walkOrDescribe c e .stat path .wantSearch .regular)
| _, _, call => refuse call

/-
  Explain a look that does not follow the last link, so that
  the file at the end may be of any kind.
-/
def lstat : Explainer
| c, e, .lstat path =>
    withPath .lstat path (pathText path)
      (walkOrDescribe c e .lstat path .wantSearch .unspecified)
| _, _, call => refuse call

/- What the root can be changed to. -/
def chrootFinding
    (c : Context)
    (e : Errno)
    (path : String) :
    Consult Finding :=
  if e = .enomem then
    return .ok (some (.kernelMemory SystemCall.chroot.name))
  else
    walkOrDescribe c e .chroot path
      (.wantSearch ||| .mustHaveKind) .directory

/- Explain a change of the root. -/
def chroot : Explainer
| c, e, .chroot path =>
    withPath .chroot path (pathText path)
      (chrootFinding c e path)
| _, _, call => refuse call

end Explain

end CallDiagnosis

------------------------------------------------------------
-- Opening a File
------------------------------------------------------------

namespace CallDiagnosis

namespace Explain

/- Blame that only an attempt to change a file can earn. -/
def openRefused
    (c : Context)
    (e : Errno)
    (path : String) :
    Consult (Option Diagnosis) := do
  let resolved := c.resolve path
  if e = .eisdir then
    match ← Consult.probe resolved with
    | .ok status =>
        if status.kind = .directory then
          return some (.openedDirectory resolved)
        else
          return none
    | .error _ => return none
  else if e = .erofs then
    return some (.readOnlyFilesystem resolved)
  else
    return none

/- What opening a file can fail with. -/
def openFinding
    (c : Context)
    (e : Errno)
    (path : String)
    (intent : Intent) :
    Consult Finding := do
  let refused ←
    if intent.WantsMutation then
      openRefused c e path
    else
      pure none
  match refused with
  | some diagnosis => return .ok (some diagnosis)
  | none => walkOrDescribe c e .openFile path intent .regular

/- The text of the arguments with which a file is opened. -/
def openText
    (path : String)
    (flags : Int32)
    (mode : UInt32) :
    String :=
  s!"flags = {OpenFlags.text flags}, " ++
    s!"mode = {OpenFlags.modeText mode}, path = '{path}'"

/- Explain the opening of a file. -/
def openFile : Explainer
| c, e, .openFile path flags mode =>
    withPath .openFile path (openText path flags mode)
      (openFinding c e path (OpenFlags.intent flags))
| _, _, call => refuse call

end Explain

end CallDiagnosis

------------------------------------------------------------
-- Removing a File
------------------------------------------------------------

namespace CallDiagnosis

namespace Explain

/-
  Blame for what the file to be removed is, or for who owns
  it.  A directory is not removed by this call.  In a sticky
  directory a file is removed only by its owner, by the owner
  of the directory, or by the superuser.
-/
def unlinkRefused
    (c : Context)
    (path : String) :
    Consult (Option Diagnosis) := do
  let resolved := c.resolve path
  match ← Consult.probe resolved with
  | .error _ => return none
  | .ok leaf =>
      if leaf.kind = .directory then
        return some (.unlinkedDirectory resolved)
      else
        let parent := Path.containing resolved
        match ← Consult.probe parent with
        | .error _ => return none
        | .ok directory =>
            let uid ← Consult.effectiveUid
            if directory.Sticky ∧ uid ≠ 0 ∧
                uid ≠ directory.uid ∧ uid ≠ leaf.uid then
              return some
                (.stickyDirectory parent resolved leaf.uid)
            else
              return none

/- What removing a file can fail with. -/
def unlinkFinding
    (c : Context)
    (e : Errno)
    (path : String) :
    Consult Finding := do
  let refused ←
    if e = .eperm ∨ e = .eisdir then
      unlinkRefused c path
    else
      pure none
  match refused with
  | some diagnosis => return .ok (some diagnosis)
  | none =>
      walkOrDescribe c e .unlink path
        (.wantUnlink ||| .mustExist) .regular

/- Explain the removal of a file. -/
def unlink : Explainer
| c, e, .unlink path =>
    withPath .unlink path (pathText path)
      (unlinkFinding c e path)
| _, _, call => refuse call

end Explain

end CallDiagnosis

------------------------------------------------------------
-- Dispatch
------------------------------------------------------------

namespace CallDiagnosis

namespace Explain

/- How a failure of a call is explained. -/
def explainerFor :
    SystemCall → Explainer
| .chroot => chroot
| .lstat => lstat
| .openFile => openFile
| .stat => stat
| .unlink => unlink
| _ => decline

/- Explain a failed call by the explainer for it. -/
def direct : Explainer :=
  fun c e call => explainerFor call.systemCall c e call

end Explain

/- One explainer for each call, at the place of the call. -/
structure CallTable where
  slots : Vector Explainer 16

namespace CallTable

/- The table with the library's own explainers. -/
def standard : CallTable :=
  ⟨SystemCall.all.map Explain.explainerFor⟩

/- The explainer for a call. -/
def get
    (t : CallTable)
    (call : SystemCall) :
    Explainer :=
  t.slots.get call.number

/- Explain a failed call by the table. -/
def explain
    (t : CallTable) :
    Explainer :=
  fun c e call => t.get call.systemCall c e call

/- A short text about a table, for reports. -/
def summary
    (t : CallTable) :
    String :=
  "ExplanationTable \x7b slots: " ++
    toString t.slots.size ++ " \x7d"

end CallTable

end CallDiagnosis
