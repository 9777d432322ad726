import CallDiagnosis.Call.Explain
import CallDiagnosis.Roster
import CallDiagnosis.Settings
import CallDiagnosis.Text.Quoted
import CallDiagnosis.Viewpoint

/-
  The session of a host.

  Key definitions include:
    * `CallDiagnosis.Session`
    * `CallDiagnosis.Session.Enabled`
    * `CallDiagnosis.Session.explain`
    * `CallDiagnosis.Session.handle`

  A session holds all that an explanation needs.  It explains
  only while its engine is on and its explanations are
  installed in the host's registry.  Events of the host drive
  it: the settings have been read, the process is about to
  change its root or has changed its directory, the server
  restarts or shuts down, or somebody is unloaded.
-/

------------------------------------------------------------
-- Sessions
------------------------------------------------------------

namespace CallDiagnosis

/-
  A session, with a view of paths of type `V` and a registry
  of type `R`.
-/
structure Session
    (V R : Type) where
  settings : Settings
  limits : LimitCache
  view : V
  signals : SignalCheck
  registry : R
  registered : Bool

namespace Session

variable {V R : Type}

/- The name under which a session installs explanations. -/
def name : String :=
  "fs-explain"

/- A new session, which has not installed anything yet. -/
def start
    (settings : Settings)
    (view : V)
    (registry : R) :
    Session V R :=
  ⟨settings, .empty, view, .idle, registry, false⟩

/- Put another check for pending signals in place. -/
def watch
    (s : Session V R)
    (signals : SignalCheck) :
    Session V R :=
  { s with signals := signals }

/- The session explains failed calls. -/
def Enabled
    (s : Session V R) :
    Prop :=
  s.settings.engine = true ∧ s.registered = true

instance
    (s : Session V R) :
    Decidable s.Enabled :=
  inferInstanceAs
    (Decidable
      (s.settings.engine = true ∧ s.registered = true))

/- Forget the limits that were captured. -/
def forgetLimits
    (s : Session V R) :
    Session V R :=
  { s with limits := s.limits.reset }

/- Turn the engine on. -/
def engineOn
    (s : Session V R) :
    Session V R :=
  { s with settings := { s.settings with engine := true } }

/- Turn the engine off. -/
def engineOff
    (s : Session V R) :
    Session V R :=
  { s with settings := { s.settings with engine := false } }

/- What the session lends to an explanation. -/
def context
    [Viewpoint V]
    (s : Session V R) :
    Context :=
  ⟨s.limits, Viewpoint.resolve s.view, s.signals⟩

end Session

end CallDiagnosis

------------------------------------------------------------
-- Explanations
------------------------------------------------------------

namespace CallDiagnosis

namespace Session

variable {V R : Type}
variable [Viewpoint V]

/- Explain a failed call, if the session explains at all. -/
def explain
    (s : Session V R)
    (e : Errno)
    (call : Call) :
    Consult (Except Fault Explanation) :=
  if s.Enabled then
    CallTable.standard.explain s.context e call
  else
    return .error .disabled

/- Explain a failed call in the verbosity that is set. -/
def describe
    (s : Session V R)
    (e : Errno)
    (call : Call) :
    Consult (Except Fault String) := do
  let explanation ← s.explain e call
  return explanation.map (·.render e s.settings.verbosity)

end Session

end CallDiagnosis

------------------------------------------------------------
-- Installation
------------------------------------------------------------

namespace CallDiagnosis

namespace Session

variable {V R : Type}
variable [Registrar R]

/-
  Install the explanations, unless the engine is off or they
  are installed already.  A registry that refuses them turns
  the engine off.
-/
def install
    (s : Session V R) :
    Consult (Session V R) := do
  if s.settings.engine = false ∨ s.registered = true then
    return s
  else
    match Registrar.register s.registry .session name with
    | (.ok (), registry) =>
        return { s with
          registry := registry
          registered := true }
    | (.error fault, registry) =>
        Inquiry.log .warn
          s!"{fault.message}; disabling error explanations"
        return { s.engineOff with registry := registry }

/- Take back the explanations, if they are installed. -/
def uninstall
    (s : Session V R) :
    Consult (Session V R) := do
  if s.registered = true then
    let (result, registry) :=
      Registrar.unregister s.registry name
    match result with
    | .ok () => pure ()
    | .error fault => Inquiry.log .debug fault.message
    return { s with
      registry := registry
      registered := false }
  else
    return s

end Session

end CallDiagnosis

------------------------------------------------------------
-- Events
------------------------------------------------------------

namespace CallDiagnosis

/- What happens to the host of a session. -/
inductive Event where
| settingsRead
| changesRoot (path : String)
| changedDirectory (path : String)
| restart
| shutdown
| unload (name : String)
deriving DecidableEq

namespace Event

/- The text of an event in the log. -/
def text :
    Event → String
| .settingsRead => "PostParse"
| .changesRoot path =>
    "Chroot(" ++ Quoted.quote path ++ ")"
| .changedDirectory path =>
    "Chdir(" ++ Quoted.quote path ++ ")"
| .restart => "Restart"
| .shutdown => "Shutdown"
| .unload name =>
    "ModuleUnload(" ++ Quoted.quote name ++ ")"

end Event

namespace Session

variable {V R : Type}

/- Capture the limits at the root that will be entered. -/
def beforeRootChange
    (s : Session V R)
    (path : String) :
    Consult (Except Fault Unit × Session V R) := do
  let (taken, limits) ← s.limits.capture path
  let after := { s with limits := limits }
  match taken with
  | .error fault => return (.error fault, after)
  | .ok true =>
      Inquiry.log .debug
        s!"captured limits before chroot to '{path}'"
      return (.ok (), after)
  | .ok false => return (.ok (), after)

/- Follow the host into another directory. -/
def afterDirectoryChange
    [Viewpoint V]
    (s : Session V R)
    (path : String) :
    Except Fault Unit × Session V R :=
  if path = "" then
    (.error (.invalidArgument .path), s)
  else
    (.ok (), { s with view := Viewpoint.enter s.view path })

/- React to an event. -/
def react
    [Viewpoint V]
    [Registrar R]
    (s : Session V R) :
    Event → Consult (Except Fault Unit × Session V R)
| .settingsRead =>
    return (.ok (), ← s.install)
| .changesRoot path =>
    s.beforeRootChange path
| .changedDirectory path =>
    return s.afterDirectoryChange path
| .restart => do
    let released ← s.uninstall
    return (.ok (), released.forgetLimits.engineOn)
| .shutdown =>
    return (.ok (), s.forgetLimits)
| .unload unloaded =>
    if unloaded = name then
      return (.ok (), ← s.forgetLimits.uninstall)
    else
      return (.ok (), s)

/- Note an event and react to it. -/
def handle
    [Viewpoint V]
    [Registrar R]
    (s : Session V R)
    (event : Event) :
    Consult (Except Fault Unit × Session V R) := do
  Inquiry.log .trace s!"handling {event.text}"
  s.react event

end Session

end CallDiagnosis

------------------------------------------------------------
-- Directives
------------------------------------------------------------

namespace CallDiagnosis

namespace Session

variable {V R : Type}

/- Carry out a directive on the settings of the session. -/
def directive
    (s : Session V R)
    (word : String)
    (arguments : List String) :
    Consult (Except Fault Unit × Session V R) := do
  match ← s.settings.directive word arguments with
  | .error fault => return (.error (.ofDirective fault), s)
  | .ok settings =>
      return (.ok (), { s with settings := settings })

end Session

end CallDiagnosis
