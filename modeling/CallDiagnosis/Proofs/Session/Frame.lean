import CallDiagnosis.Proofs.Session.Course
import CallDiagnosis.Proofs.Session.Series

/-
  The parts of a session that requests leave alone.

  Key definitions include:
    * `CallDiagnosis.Session.Part`
    * `CallDiagnosis.Session.Agree`
    * `CallDiagnosis.Request.touched`

  Key theorems include:
    * `CallDiagnosis.Session.agree_perform`
    * `CallDiagnosis.Session.agree_performAll`
    * `CallDiagnosis.Session.value_perform_of_untouched`

  For each request it is said once which parts of a session it
  may touch.  All other parts are afterwards what they were
  before, whatever was asked meanwhile, and so a part that no
  request of a row touches lasts for the whole row.
-/

------------------------------------------------------------
-- Parts of Sessions
------------------------------------------------------------

namespace CallDiagnosis

namespace Session

variable {V R : Type}

/- The parts that a session is made of. -/
inductive Part where
| engine
| verbosity
| options
| limits
| view
| signals
| registry
| registered
deriving DecidableEq

/- Two sessions have a part in common. -/
def Agree
    (s t : Session V R) :
    Part → Prop
| .engine => s.settings.engine = t.settings.engine
| .verbosity => s.settings.verbosity = t.settings.verbosity
| .options => s.settings.options = t.settings.options
| .limits => s.limits = t.limits
| .view => s.view = t.view
| .signals => s.signals = t.signals
| .registry => s.registry = t.registry
| .registered => s.registered = t.registered

@[simp] theorem Agree.refl
    (s : Session V R)
    (part : Part) :
    s.Agree s part := by
  cases part <;> rfl

theorem Agree.trans
    {s t u : Session V R}
    {part : Part}
    (hFirst : s.Agree t part)
    (hSecond : t.Agree u part) :
    s.Agree u part := by
  cases part <;> exact Eq.trans hFirst hSecond

/- A session is made of nothing but its parts. -/
theorem eq_of_agree
    {s t : Session V R}
    (hParts : ∀ part, s.Agree t part) :
    s = t := by
  rcases s with ⟨⟨engine, verbosity, options⟩, limits, view,
    signals, registry, registered⟩
  rcases t with ⟨⟨engine', verbosity', options'⟩, limits',
    view', signals', registry', registered'⟩
  obtain rfl : engine = engine' := hParts .engine
  obtain rfl : verbosity = verbosity' := hParts .verbosity
  obtain rfl : options = options' := hParts .options
  obtain rfl : limits = limits' := hParts .limits
  obtain rfl : view = view' := hParts .view
  obtain rfl : signals = signals' := hParts .signals
  obtain rfl : registry = registry' := hParts .registry
  obtain rfl : registered = registered' := hParts .registered
  rfl

end Session

end CallDiagnosis

------------------------------------------------------------
-- Parts that are Touched
------------------------------------------------------------

namespace CallDiagnosis

open Session (Part)

namespace Event

/- The parts of a session that an event may touch. -/
def touched :
    Event → List Part
| .settingsRead => [.registry, .registered, .engine]
| .changesRoot _ => [.limits]
| .changedDirectory _ => [.view]
| .restart => [.limits, .registry, .registered, .engine]
| .shutdown => [.limits]
| .unload name =>
    if name = Session.name then
      [.limits, .registry, .registered]
    else
      []

end Event

namespace LimitRequest

/- The parts of a session that a request for limits may touch. -/
def touched :
    LimitRequest → List Part
| .capture _ => [.limits]
| .reset => [.limits]
| _ => []

end LimitRequest

namespace Request

/- The parts of a session that a request may touch. -/
def touched :
    Request → List Part
| .event happening => happening.touched
| .directive _ _ => [.engine, .verbosity, .options]
| .limit request => request.touched
| .watch _ => [.signals]
| .guestRegister _ => [.registry]
| .guestUnregister _ => [.registry]
| .explain _ _ => []
| .describe _ _ => []
| .walk _ _ _ _ => []

end Request

end CallDiagnosis

------------------------------------------------------------
-- Parts that are Left Alone
------------------------------------------------------------

namespace CallDiagnosis

namespace Session

variable {V R : Type}
variable (s : Session V R)
variable (part : Part)

/- Other limits are a change of the limits only. -/
theorem agree_limits
    (limits : LimitCache)
    (hLimits : part ≠ .limits) :
    Agree { s with limits := limits } s part := by
  cases part with
  | limits => exact absurd rfl hLimits
  | _ => rfl

/- A switch of the engine leaves all other settings alone. -/
theorem agree_engine
    (engine : Bool)
    (hEngine : part ≠ .engine) :
    Agree
      { s with settings := { s.settings with engine := engine } }
      s part := by
  cases part with
  | engine => exact absurd rfl hEngine
  | _ => rfl

/- A place in a registry has to do with two parts only. -/
theorem agree_place
    (registry : R)
    (registered : Bool)
    (hRegistry : part ≠ .registry)
    (hRegistered : part ≠ .registered) :
    Agree
      { s with registry := registry, registered := registered }
      s part := by
  cases part with
  | registry => exact absurd rfl hRegistry
  | registered => exact absurd rfl hRegistered
  | _ => rfl

/- A directive changes settings and nothing else. -/
theorem agree_settings
    (settings : Settings)
    (hPart : part ∉ [.engine, .verbosity, .options]) :
    Agree { s with settings := settings } s part := by
  cases part with
  | engine => simp at hPart
  | verbosity => simp at hPart
  | options => simp at hPart
  | _ => rfl

section Places

variable [Registrar R]

theorem agree_installed
    (hPart : part ∉ Event.settingsRead.touched) :
    s.installed.Agree s part := by
  simp only [Event.touched, List.mem_cons, List.not_mem_nil,
    or_false, not_or] at hPart
  rcases hPart with ⟨hRegistry, hRegistered, hEngine⟩
  unfold installed
  split
  · exact Agree.refl s part
  · split
    · exact agree_place s part _ _ hRegistry hRegistered
    · exact
        (agree_place s.engineOff part _ _ hRegistry
          hRegistered).trans
          (agree_engine s part false hEngine)

theorem agree_released
    (hRegistry : part ≠ .registry)
    (hRegistered : part ≠ .registered) :
    s.released.Agree s part := by
  unfold released
  split
  · exact agree_place s part _ _ hRegistry hRegistered
  · exact Agree.refl s part

variable [Viewpoint V]
variable (exchanges : List (Exchange surroundings))

/- An event leaves alone what it may not touch. -/
theorem agree_afterEvent
    (event : Event)
    (hPart : part ∉ event.touched) :
    (s.afterEvent exchanges event).Agree s part := by
  cases event with
  | settingsRead => exact agree_installed s part hPart
  | changesRoot path =>
      simp only [Event.touched, List.mem_singleton] at hPart
      exact agree_limits s part _ hPart
  | changedDirectory path =>
      by_cases hPath : path = ""
      · simp only [afterEvent, hPath, if_true, Agree.refl]
      · simp only [afterEvent, hPath, if_false]
        cases part with
        | view => simp [Event.touched] at hPart
        | _ => rfl
  | restart =>
      simp only [Event.touched, List.mem_cons,
        List.not_mem_nil, or_false, not_or] at hPart
      rcases hPart with
        ⟨hLimits, hRegistry, hRegistered, hEngine⟩
      exact
        (agree_engine _ part true hEngine).trans
          ((agree_limits _ part _ hLimits).trans
            (agree_released s part hRegistry hRegistered))
  | shutdown =>
      simp only [Event.touched, List.mem_singleton] at hPart
      exact agree_limits s part _ hPart
  | unload unloaded =>
      by_cases hName : unloaded = name
      · simp only [Event.touched, hName, if_true,
          List.mem_cons, List.not_mem_nil, or_false, not_or]
          at hPart
        rcases hPart with ⟨hLimits, hRegistry, hRegistered⟩
        simp only [afterEvent, hName, if_true]
        exact
          (agree_released _ part hRegistry hRegistered).trans
            (agree_limits s part _ hLimits)
      · simp only [afterEvent, hName, if_false, Agree.refl]

/- A request leaves alone what it may not touch. -/
theorem agree_next
    (request : Request)
    (hPart : part ∉ request.touched) :
    (s.next exchanges request).Agree s part := by
  cases request with
  | event event =>
      exact agree_afterEvent s part exchanges event hPart
  | directive word arguments =>
      exact agree_settings s part _ hPart
  | limit request =>
      cases part with
      | limits =>
          -- Only two of these requests may touch the limits.
          cases request with
          | capture path =>
              simp [Request.touched, LimitRequest.touched]
                at hPart
          | reset =>
              simp [Request.touched, LimitRequest.touched]
                at hPart
          | _ => rfl
      | _ => rfl
  | watch signals =>
      cases part with
      | signals => simp [Request.touched] at hPart
      | _ => rfl
  | guestRegister taken =>
      cases part with
      | registry => simp [Request.touched] at hPart
      | _ => rfl
  | guestUnregister given =>
      cases part with
      | registry => simp [Request.touched] at hPart
      | _ => rfl
  | explain e call => exact Agree.refl s part
  | describe e call => exact Agree.refl s part
  | walk e path intent expected => exact Agree.refl s part

end Places

end Session

end CallDiagnosis

------------------------------------------------------------
-- Runs that Leave Parts Alone
------------------------------------------------------------

namespace CallDiagnosis

namespace Session

variable {V R : Type}
variable [Viewpoint V]
variable [Registrar R]
variable {σ : Type}
variable (host : Host surroundings σ)
variable (level : Log.Level)
variable (state : σ)
variable (s : Session V R)

/- A request leaves alone what it may not touch. -/
theorem agree_perform
    (request : Request)
    (part : Part)
    (hPart : part ∉ request.touched) :
    ((s.perform request).run host level state).value.2.Agree
      s part := by
  rw [perform_next]
  exact agree_next s part _ request hPart

/- A part that no request of a row touches lasts. -/
theorem agree_performAll
    (requests : List Request)
    (part : Part)
    (hPart :
      ∀ request ∈ requests, part ∉ request.touched) :
    ((s.performAll requests).run
      host level state).value.2.Agree s part := by
  induction requests generalizing s state with
  | nil => exact Agree.refl s part
  | cons request rest ih =>
      rw [List.forall_mem_cons] at hPart
      rw [run_performAll_cons]
      exact
        (ih _ _ hPart.2).trans
          (agree_perform host level state s request part
            hPart.1)

/- A request that may touch nothing keeps the session. -/
theorem value_perform_of_untouched
    (request : Request)
    (hTouched : request.touched = []) :
    ((s.perform request).run host level state).value.2 =
      s := by
  apply eq_of_agree
  intro part
  apply agree_perform
  simp [hTouched]

end Session

end CallDiagnosis
