import CallDiagnosis.Proofs.Session.Transition

/-
  What can be observed of a session from outside.

  Key definitions include:
    * `CallDiagnosis.Overseen`
    * `CallDiagnosis.Session.heard`
    * `CallDiagnosis.Turn`
    * `CallDiagnosis.Session.Course`

  Key theorems include:
    * `CallDiagnosis.Session.heard_eq`

  A session shows what it was asked, what it replied, and what
  its registry answered when the session wanted to be taken in.
  The last is heard by putting a registry in place that passes
  every request on and writes those answers down.
-/

------------------------------------------------------------
-- Overseen Registries
------------------------------------------------------------

namespace CallDiagnosis

/-
  A registry together with its answers to a session that
  wanted to be taken in, the latest one first.
-/
structure Overseen
    (R : Type) where
  registry : R
  answers : List (Except RegistryFault Unit)

instance
    {R : Type}
    [Registrar R] :
    Registrar (Overseen R) where
  register r owner taken :=
    let reply := Registrar.register r.registry owner taken
    match owner with
    | .session => (reply.1, ⟨reply.2, reply.1 :: r.answers⟩)
    | .guest => (reply.1, ⟨reply.2, r.answers⟩)
  unregister r given :=
    let reply := Registrar.unregister r.registry given
    (reply.1, ⟨reply.2, r.answers⟩)

namespace Session

variable {V R : Type}

/- The session with its registry overseen from now on. -/
def overseen
    (s : Session V R) :
    Session V (Overseen R) :=
  ⟨s.settings, s.limits, s.view, s.signals,
    ⟨s.registry, []⟩, s.registered⟩

variable [Registrar R]

/- What the registry answers if the session is to be installed. -/
def bid
    (s : Session V R) :
    List (Except RegistryFault Unit) :=
  if s.settings.engine = false ∨ s.registered = true then
    []
  else
    [(Registrar.register s.registry .session name).1]

/- An installation is written down. -/
theorem answers_installed
    (s : Session V R) :
    s.overseen.installed.registry.answers = s.bid := by
  by_cases hOff :
      s.settings.engine = false ∨ s.registered = true
  · simp [installed, bid, overseen, hOff]
  · rcases hRegister :
        Registrar.register s.registry .session name with
      ⟨result, registry⟩
    cases result with
    | ok granted =>
        simp [installed, bid, overseen, hOff,
          Registrar.register, hRegister]
    | error fault =>
        simp [installed, bid, overseen, hOff,
          Registrar.register, hRegister, engineOff]

/- With a release there is nothing to write down. -/
theorem answers_released
    (s : Session V R) :
    s.overseen.released.registry.answers = [] := by
  by_cases hRegistered : s.registered = true
  · simp [released, overseen, hRegistered,
      Registrar.unregister]
  · simp [released, overseen, hRegistered]

end Session

end CallDiagnosis

------------------------------------------------------------
-- Turns
------------------------------------------------------------

namespace CallDiagnosis

namespace Session

variable {V R : Type}
variable [Viewpoint V]
variable [Registrar R]
variable {σ : Type}
variable (host : Host surroundings σ)
variable (level : Log.Level)
variable (state : σ)

/-
  What the registry answers to the session while a request is
  carried out.
-/
def heard
    (s : Session V R)
    (request : Request) :
    List (Except RegistryFault Unit) :=
  ((s.overseen.perform request).run
    host level state).value.2.registry.answers

/- Only when its settings are read a session wants to be in. -/
theorem heard_eq
    (s : Session V R)
    (request : Request) :
    s.heard host level state request =
      if request = .event .settingsRead then
        s.bid
      else
        [] := by
  unfold heard
  rw [perform_next]
  cases request with
  | event event =>
      cases event with
      | settingsRead => exact answers_installed s
      | changesRoot path => rfl
      | changedDirectory path =>
          by_cases hPath : path = ""
          · simp [next, afterEvent, hPath, overseen]
          · simp [next, afterEvent, hPath, overseen]
      | restart => exact answers_released s
      | shutdown => rfl
      | unload unloaded =>
          by_cases hName : unloaded = name
          · simp only [next, afterEvent, hName, if_true]
            exact answers_released s.forgetLimits
          · simp [next, afterEvent, hName, overseen]
  | guestRegister taken => rfl
  | guestUnregister given => rfl
  | directive word arguments => rfl
  | explain e call => rfl
  | describe e call => rfl
  | walk e path intent expected => rfl
  | limit request => rfl
  | watch signals => rfl

end Session

/-
  A request that was carried out, the reply to it, and what
  the registry answered to the session meanwhile.
-/
structure Turn where
  request : Request
  reply : Except Fault Reply
  answers : List (Except RegistryFault Unit)

namespace Session

variable {V R : Type}
variable [Viewpoint V]
variable [Registrar R]

section Turns

variable {σ : Type}
variable (host : Host surroundings σ)
variable (level : Log.Level)
variable (state : σ)

/- What is observed of a session while a request is carried out. -/
def turn
    (s : Session V R)
    (request : Request) :
    Turn :=
  ⟨request,
    ((s.perform request).run host level state).value.1,
    s.heard host level state request⟩

end Turns

/-
  The courses that a session can take, the latest turn first.
  Each request may be carried out against another host.
-/
inductive Course
    (first : Session V R) :
    List Turn → Session V R → Prop
| new :
    Course first [] first
| step
    {turns : List Turn}
    {s : Session V R}
    {σ : Type}
    (host : Host surroundings σ)
    (level : Log.Level)
    (state : σ)
    (request : Request)
    (hPast : Course first turns s) :
    Course first
      (s.turn host level state request :: turns)
      ((s.perform request).run host level state).value.2

/- The course of a session before its latest turns. -/
theorem Course.earlier
    {first s : Session V R}
    {later turns : List Turn}
    (hCourse : Course first (later ++ turns) s) :
    ∃ past : Session V R, Course first turns past := by
  induction later generalizing s with
  | nil => exact ⟨s, hCourse⟩
  | cons turn later ih =>
      cases hCourse with
      | step host level state request hPast => exact ih hPast

end Session

end CallDiagnosis
