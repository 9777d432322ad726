import CallDiagnosis.Proofs.Limit.History
import CallDiagnosis.Session.Request

/-
  What requests do to a session.

  Key definitions include:
    * `CallDiagnosis.Session.installed`
    * `CallDiagnosis.Session.released`
    * `CallDiagnosis.Session.next`
    * `CallDiagnosis.Session.History`

  Key theorems include:
    * `CallDiagnosis.Session.perform_next`
    * `CallDiagnosis.Session.History.eq_replay`

  The session after a request is a function of the session
  before it, the request, and what was asked and answered
  meanwhile.  It is written down here once, one line for each
  request; what a session keeps along a history is proved
  from these lines.
-/

------------------------------------------------------------
-- Installation
------------------------------------------------------------

namespace CallDiagnosis

namespace Session

variable {V R : Type}
variable [Registrar R]

/- A session after its explanations were to be installed. -/
def installed
    (s : Session V R) :
    Session V R :=
  if s.settings.engine = false ∨ s.registered = true then
    s
  else
    match Registrar.register s.registry .session name with
    | (.ok (), registry) =>
        { s with registry := registry, registered := true }
    | (.error _, registry) =>
        { s.engineOff with registry := registry }

/- A session after its explanations were to be taken back. -/
def released
    (s : Session V R) :
    Session V R :=
  if s.registered = true then
    { s with
      registry := (Registrar.unregister s.registry name).2
      registered := false }
  else
    s

section Runs

variable {σ : Type}
variable (host : Host surroundings σ)
variable (level : Log.Level)
variable (state : σ)

@[simp] theorem value_install
    (s : Session V R) :
    ((s.install).run host level state).value =
      s.installed := by
  unfold install installed
  split
  · rfl
  · rcases hRegister :
        Registrar.register s.registry .session name with
      ⟨result, registry⟩
    cases result with
    | ok granted => rfl
    | error fault => simp

@[simp] theorem value_uninstall
    (s : Session V R) :
    ((s.uninstall).run host level state).value =
      s.released := by
  unfold uninstall released
  split
  · rcases hUnregister :
        Registrar.unregister s.registry name with
      ⟨result, registry⟩
    cases result with
    | ok granted => rfl
    | error fault => simp
  · rfl

end Runs

end Session

end CallDiagnosis

------------------------------------------------------------
-- The Session after a Request
------------------------------------------------------------

namespace CallDiagnosis

namespace Session

variable {V R : Type}
variable [Viewpoint V]
variable [Registrar R]

/- A session after an event, from the exchanges made for it. -/
def afterEvent
    (s : Session V R)
    (exchanges : List (Exchange surroundings)) :
    Event → Session V R
| .settingsRead => s.installed
| .changesRoot path =>
    { s with
      limits := s.limits.next exchanges (.capture path) }
| .changedDirectory path =>
    if path = "" then
      s
    else
      { s with view := Viewpoint.enter s.view path }
| .restart => s.released.forgetLimits.engineOn
| .shutdown => s.forgetLimits
| .unload unloaded =>
    if unloaded = name then s.forgetLimits.released else s

/- A session after a directive. -/
def afterDirective
    (s : Session V R)
    (word : String)
    (arguments : List String) :
    Session V R :=
  { s with
    settings :=
      match s.settings.change? word arguments with
      | .ok settings => settings
      | .error _ => s.settings }

/- A session after a request, from the exchanges made for it. -/
def next
    (s : Session V R)
    (exchanges : List (Exchange surroundings)) :
    Request → Session V R
| .event event => s.afterEvent exchanges event
| .directive word arguments => s.afterDirective word arguments
| .limit request =>
    { s with limits := s.limits.next exchanges request }
| .watch signals => s.watch signals
| .guestRegister taken =>
    { s with
      registry :=
        (Registrar.register s.registry .guest taken).2 }
| .guestUnregister given =>
    { s with
      registry := (Registrar.unregister s.registry given).2 }
| .explain _ _ => s
| .describe _ _ => s
| .walk _ _ _ _ => s

end Session

end CallDiagnosis

------------------------------------------------------------
-- Runs of Requests
------------------------------------------------------------

namespace CallDiagnosis

namespace Session

variable {V R : Type}
variable {σ : Type}
variable (host : Host surroundings σ)
variable (level : Log.Level)
variable (state : σ)

/- A change of the root is a capture of the limits. -/
theorem run_beforeRootChange
    (s : Session V R)
    (path : String) :
    ((s.beforeRootChange path).run
        host level state).value =
      ((((s.limits.capture path).run
          host level state).value.1.map fun _ => ()),
        { s with
          limits :=
            ((s.limits.capture path).run
              host level state).value.2 }) ∧
    ((s.beforeRootChange path).run host level state).state =
      ((s.limits.capture path).run host level state).state ∧
    ((s.beforeRootChange path).run
        host level state).exchanges =
      ((s.limits.capture path).run
        host level state).exchanges := by
  unfold beforeRootChange
  rw [Inquiry.run_bind]
  rcases hCapture :
      (s.limits.capture path).run host level state with
    ⟨⟨taken, limits⟩, after, exchanges, records⟩
  cases taken with
  | error fault => simp [Except.map]
  | ok fresh =>
      cases fresh with
      | false => simp [Except.map]
      | true => simp [Except.map]

/- Settings change by a directive, and nothing else does. -/
theorem value_directive
    (s : Session V R)
    (word : String)
    (arguments : List String) :
    ((s.directive word arguments).run
        host level state).value.2 =
      s.afterDirective word arguments := by
  cases hChange : s.settings.change? word arguments with
  | error fault =>
      simp [directive, Settings.directive, afterDirective,
        hChange]
  | ok settings =>
      simp [directive, Settings.directive, afterDirective,
        hChange]

variable [Viewpoint V]
variable [Registrar R]

/- An event does to a session what its exchanges say. -/
theorem handle_next
    (s : Session V R)
    (event : Event) :
    ((s.handle event).run host level state).value.2 =
      s.afterEvent
        ((s.handle event).run host level state).exchanges
        event := by
  cases event with
  | settingsRead => simp [handle, react, afterEvent]
  | changesRoot path =>
      have hRoot :=
        run_beforeRootChange host level state s path
      have hLimits :=
        LimitCache.perform_next host level state s.limits
          (.capture path)
      simp [LimitCache.perform] at hLimits
      simp [handle, react, afterEvent, hRoot, hLimits]
  | changedDirectory path =>
      by_cases hPath : path = ""
      · simp [handle, react, afterDirectoryChange, afterEvent,
          hPath]
      · simp [handle, react, afterDirectoryChange, afterEvent,
          hPath]
  | restart => simp [handle, react, afterEvent]
  | shutdown => simp [handle, react, afterEvent]
  | unload unloaded =>
      by_cases hName : unloaded = name
      · simp [handle, react, afterEvent, hName]
      · simp [handle, react, afterEvent, hName]

/- A request does to a session what its exchanges say. -/
theorem perform_next
    (s : Session V R)
    (request : Request) :
    ((s.perform request).run host level state).value.2 =
      s.next
        ((s.perform request).run host level state).exchanges
        request := by
  cases request with
  | event event =>
      simpa [perform, next] using
        handle_next host level state s event
  | directive word arguments =>
      simpa [perform, next] using
        value_directive host level state s word arguments
  | limit request =>
      have hLimits :=
        LimitCache.perform_next host level state s.limits
          request
      simp [perform, next, hLimits]
  | explain e call => simp [perform, next]
  | describe e call => simp [perform, next]
  | walk e path intent expected => simp [perform, next]
  | watch signals => simp [perform, next]
  | guestRegister taken =>
      simp [perform, next, afterGuest]
  | guestUnregister given =>
      simp [perform, next, afterGuest]

end Session

end CallDiagnosis

------------------------------------------------------------
-- Histories
------------------------------------------------------------

namespace CallDiagnosis

namespace Session

variable {V R : Type}
variable [Viewpoint V]
variable [Registrar R]

/-
  The histories of a session, the latest deed first.  Each
  request may be carried out against another host.
-/
inductive History
    (first : Session V R) :
    List (Deed Request) → Session V R → Prop where
| new :
    History first [] first
| step
    {deeds : List (Deed Request)}
    {s : Session V R}
    {σ : Type}
    (host : Host surroundings σ)
    (level : Log.Level)
    (state : σ)
    (request : Request)
    (hPast : History first deeds s) :
    History first
      (⟨request,
        ((s.perform request).run
          host level state).exchanges⟩ :: deeds)
      ((s.perform request).run host level state).value.2

/- The session that a list of deeds leads to. -/
def replay
    (first : Session V R) :
    List (Deed Request) → Session V R
| [] => first
| deed :: deeds =>
    (replay first deeds).next deed.exchanges deed.request

/- A history leads to the session that its deeds lead to. -/
theorem History.eq_replay
    {first s : Session V R}
    {deeds : List (Deed Request)}
    (hHistory : History first deeds s) :
    s = replay first deeds := by
  induction hHistory with
  | new => rfl
  | step host level state request hPast ih =>
      rw [perform_next, ih]
      rfl

end Session

end CallDiagnosis
