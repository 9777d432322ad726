import CallDiagnosis.Proofs.Session.Transition
import CallDiagnosis.Scenario

/-
  The limits of a session along its history.

  Key definitions include:
    * `CallDiagnosis.Session.limitDeed?`

  Key theorems include:
    * `CallDiagnosis.Session.limits_step`
    * `CallDiagnosis.Session.limits_follow_capture_in_force`

  A session treats its limits as a cache of its own: a change
  of the root is a capture, and a restart, a shutdown and the
  unloading of the session's own explanations are resets.  So
  every history of a session is a history of a cache.
-/

------------------------------------------------------------
-- Deeds of a Session as Deeds of a Cache
------------------------------------------------------------

namespace CallDiagnosis

namespace Session

/- What a deed of a session is to its limits, if anything. -/
def limitDeed? :
    Deed Request → Option (Deed LimitRequest)
| ⟨.limit request, exchanges⟩ =>
    some ⟨request, exchanges⟩
| ⟨.event (.changesRoot path), exchanges⟩ =>
    some ⟨.capture path, exchanges⟩
| ⟨.event .restart, _⟩ => some ⟨.reset, []⟩
| ⟨.event .shutdown, _⟩ => some ⟨.reset, []⟩
| ⟨.event (.unload unloaded), _⟩ =>
    if unloaded = name then some ⟨.reset, []⟩ else none
| _ => none

variable {V R : Type}
variable [Registrar R]

@[simp] theorem limits_installed
    (s : Session V R) :
    s.installed.limits = s.limits := by
  unfold installed
  split
  · rfl
  · split <;> rfl

@[simp] theorem limits_released
    (s : Session V R) :
    s.released.limits = s.limits := by
  unfold released
  split <;> rfl

variable [Viewpoint V]

section Runs

variable {σ : Type}
variable (host : Host surroundings σ)
variable (level : Log.Level)
variable (state : σ)

/- A request about limits goes to the cache as it is. -/
theorem run_limit
    (s : Session V R)
    (request : LimitRequest) :
    (s.perform (.limit request)).run host level state =
      ⟨(((s.limits.perform request).run
            host level state).value.1.map .limit,
          { s with
            limits :=
              ((s.limits.perform request).run
                host level state).value.2 }),
        ((s.limits.perform request).run
          host level state).state,
        ((s.limits.perform request).run
          host level state).exchanges,
        ((s.limits.perform request).run
          host level state).records⟩ := by
  simp [perform, Run.followedBy]

/- A change of the root is a request for a capture. -/
theorem run_changesRoot
    (s : Session V R)
    (path : String) :
    ((s.perform (.event (.changesRoot path))).run
        host level state).value =
      (((s.limits.perform (.capture path)).run
          host level state).value.1.map fun _ => .done,
        { s with
          limits :=
            ((s.limits.perform (.capture path)).run
              host level state).value.2 }) ∧
    ((s.perform (.event (.changesRoot path))).run
        host level state).state =
      ((s.limits.perform (.capture path)).run
        host level state).state ∧
    ((s.perform (.event (.changesRoot path))).run
        host level state).exchanges =
      ((s.limits.perform (.capture path)).run
        host level state).exchanges := by
  have hRoot := run_beforeRootChange host level state s path
  cases hTaken :
      ((s.limits.capture path).run
        host level state).value.1 with
  | error fault =>
      simp [perform, handle, react, LimitCache.perform,
        hRoot, hTaken, Except.map]
  | ok fresh =>
      simp [perform, handle, react, LimitCache.perform,
        hRoot, hTaken, Except.map]

/-
  A request to a session either leaves its limits alone or
  does to them what a request to the cache does.
-/
theorem limits_step
    (s : Session V R)
    (request : Request) :
    (limitDeed?
        ⟨request,
          ((s.perform request).run
            host level state).exchanges⟩ = none ∧
      ((s.perform request).run
        host level state).value.2.limits = s.limits) ∨
    ∃ asked : LimitRequest,
      limitDeed?
          ⟨request,
            ((s.perform request).run
              host level state).exchanges⟩ =
        some
          ⟨asked,
            ((s.limits.perform asked).run
              host level state).exchanges⟩ ∧
      ((s.perform request).run
          host level state).value.2.limits =
        ((s.limits.perform asked).run
          host level state).value.2 := by
  -- What a request leaves is known from `next`; only requests
  -- that ask the host about limits need their runs as well.
  have hNext := perform_next host level state s request
  cases request with
  | limit request =>
      refine .inr ⟨request, ?_⟩
      simp [limitDeed?, run_limit]
  | event event =>
      cases event with
      | changesRoot path =>
          have hRoot :=
            run_changesRoot host level state s path
          refine .inr ⟨.capture path, ?_⟩
          simp [limitDeed?, hRoot]
      | restart =>
          refine .inr ⟨.reset, ?_⟩
          rw [hNext]
          simp [limitDeed?, next, afterEvent, forgetLimits,
            engineOn, LimitCache.perform]
      | shutdown =>
          refine .inr ⟨.reset, ?_⟩
          rw [hNext]
          simp [limitDeed?, next, afterEvent, forgetLimits,
            LimitCache.perform]
      | unload unloaded =>
          by_cases hName : unloaded = name
          · refine .inr ⟨.reset, ?_⟩
            rw [hNext]
            simp [limitDeed?, next, afterEvent, hName,
              forgetLimits, LimitCache.perform]
          · refine .inl ?_
            rw [hNext]
            simp [limitDeed?, next, afterEvent, hName]
      | settingsRead =>
          refine .inl ?_
          rw [hNext]
          simp [limitDeed?, next, afterEvent]
      | changedDirectory path =>
          refine .inl ⟨rfl, ?_⟩
          rw [hNext]
          by_cases hPath : path = ""
          · simp [next, afterEvent, hPath]
          · simp [next, afterEvent, hPath]
  | directive word arguments =>
      exact .inl ⟨rfl, by rw [hNext]; rfl⟩
  | explain e call => exact .inl ⟨rfl, by rw [hNext]; rfl⟩
  | describe e call => exact .inl ⟨rfl, by rw [hNext]; rfl⟩
  | walk e path intent expected =>
      exact .inl ⟨rfl, by rw [hNext]; rfl⟩
  | watch signals => exact .inl ⟨rfl, by rw [hNext]; rfl⟩
  | guestRegister taken =>
      exact .inl ⟨rfl, by rw [hNext]; rfl⟩
  | guestUnregister given =>
      exact .inl ⟨rfl, by rw [hNext]; rfl⟩

end Runs

/- A history of a session is a history of its limits. -/
theorem History.limits
    {first s : Session V R}
    {deeds : List (Deed Request)}
    (hFirst : first.limits = .empty)
    (hHistory : History first deeds s) :
    LimitCache.History
      (deeds.filterMap limitDeed?) s.limits := by
  induction hHistory with
  | new =>
      rw [hFirst]
      exact .new
  | @step deeds past σ host level state request hPast ih =>
      rcases limits_step host level state past request with
        ⟨hDeed, hSame⟩ | ⟨asked, hDeed, hLimits⟩
      · rw [List.filterMap_cons_none hDeed, hSame]
        exact ih
      · rw [List.filterMap_cons_some hDeed, hLimits]
        exact .step host level state asked ih

end Session

end CallDiagnosis

------------------------------------------------------------
-- Limits along a History
------------------------------------------------------------

namespace CallDiagnosis

namespace Session

variable {V R : Type}
variable [Viewpoint V]
variable [Registrar R]

/-
  Along every history, of a cache and of a session, whoever
  answered its questions, the limits that are told are those
  of the capture in force, and a session captures before the
  root changes.
-/
theorem limits_follow_capture_in_force :
    (∀ (deeds : List (Deed LimitRequest))
        (cache : LimitCache),
      LimitCache.History deeds cache →
      ∀ {σ : Type} (host : Host surroundings σ)
        (level : Log.Level) (state : σ),
        LimitCache.Honours host level state cache
          (LimitCache.inForce? deeds)) ∧
    (∀ (settings : Settings) (view : V) (registry : R)
        (deeds : List (Deed Request)) (s : Session V R),
      History (start settings view registry) deeds s →
      LimitCache.History
          (deeds.filterMap limitDeed?) s.limits ∧
      ∀ {σ : Type} (host : Host surroundings σ)
        (level : Log.Level) (state : σ),
        LimitCache.Honours host level state s.limits
          (LimitCache.inForce?
            (deeds.filterMap limitDeed?)) ∧
        (∀ request,
          (s.perform (.limit request)).run host level state =
            ⟨(((s.limits.perform request).run
                  host level state).value.1.map .limit,
                { s with
                  limits :=
                    ((s.limits.perform request).run
                      host level state).value.2 }),
              ((s.limits.perform request).run
                host level state).state,
              ((s.limits.perform request).run
                host level state).exchanges,
              ((s.limits.perform request).run
                host level state).records⟩) ∧
        ∀ path,
          ((s.perform (.event (.changesRoot path))).run
              host level state).value =
            (((s.limits.perform (.capture path)).run
                host level state).value.1.map fun _ => .done,
              { s with
                limits :=
                  ((s.limits.perform (.capture path)).run
                    host level state).value.2 }) ∧
          ((s.perform (.event (.changesRoot path))).run
              host level state).state =
            ((s.limits.perform (.capture path)).run
              host level state).state ∧
          ((s.perform (.event (.changesRoot path))).run
              host level state).exchanges =
            ((s.limits.perform (.capture path)).run
              host level state).exchanges) := by
  constructor
  · intro deeds cache hHistory σ host level state
    exact hHistory.honours host level state
  · intro settings view registry deeds s hHistory
    have hLimits :
        LimitCache.History
          (deeds.filterMap limitDeed?) s.limits :=
      hHistory.limits rfl
    refine ⟨hLimits, ?_⟩
    intro σ host level state
    refine ⟨hLimits.honours host level state, ?_, ?_⟩
    · intro request
      exact run_limit host level state s request
    · intro path
      exact run_changesRoot host level state s path

/- A system on which only the length of a name is limited. -/
def systemBefore : Scenario :=
  ⟨[], 500, ⟨some 255, some 0, none, none, none, none, []⟩⟩

/- A system on which everything is limited to fourteen. -/
def systemAfter : Scenario :=
  ⟨[], 500, ⟨some 14, some 14, some 14, none, none, none, []⟩⟩

/- A session that was about to enter "/srv" on the former. -/
def confined : Session WorkingDirectory Roster :=
  (((start .standard (.ofPath "/") .empty).perform
      (.event (.changesRoot "/srv"))).run
    Scenario.host .off systemBefore).value.2

/- It tells what was captured, and asks for what was not. -/
theorem limits_follow_capture_in_force_of_confined :
    (∃ deeds,
      History
        (start .standard (.ofPath "/") Roster.empty)
        deeds confined) ∧
    (confined.perform (.limit (.nameMax "/tmp"))).run
        Scenario.host .off systemAfter =
      ⟨(.ok (.limit (.number 255)), confined), systemAfter,
        [], []⟩ ∧
    ((confined.perform (.limit (.pathMax "/tmp"))).run
        Scenario.host .off systemAfter).value.1 =
      .ok (.limit (.number 14)) := by
  have hHistory :=
    History.step Scenario.host .off systemBefore
      (.event (.changesRoot "/srv"))
      (.new :
        History
          (start .standard (WorkingDirectory.ofPath "/")
            Roster.empty)
          [] _)
  rcases
      limits_follow_capture_in_force.2 _ _ _ _ _ hHistory with
    ⟨-, hLimits⟩
  rcases hLimits Scenario.host .off systemAfter with
    ⟨hHonours, hRun, -⟩
  refine ⟨⟨_, hHistory⟩, ?_, ?_⟩
  · have hHeld :=
      hHonours.held _ .nameMax 255 "/tmp" (by decide) rfl rfl
        (by decide)
    have hTold := hRun (.nameMax "/tmp")
    rw [show LimitRequest.nameMax "/tmp" =
      .query .nameMax "/tmp" from rfl, hHeld] at hTold
    exact hTold
  · have hLive :=
      hHonours.live .pathMax "/tmp" (by decide) (by
        intro c value hForce hReported
        cases hForce
        cases hReported
        decide)
    have hTold := hRun (.pathMax "/tmp")
    rw [show LimitRequest.pathMax "/tmp" =
      .query .pathMax "/tmp" from rfl, hLive] at hTold
    exact congrArg (fun run => run.value.1) hTold

end Session

end CallDiagnosis
