import CallDiagnosis.Proofs.Session.Ownership

/-
  What a request that fails leaves behind.

  Key theorems include:
    * `CallDiagnosis.LimitCache.perform_of_error`
    * `CallDiagnosis.Session.perform_of_error`
    * `CallDiagnosis.Session.failure_changes_nothing`

  A request that fails has not done half of its work.  The
  session that it leaves behind is the session that it found,
  settings, limits, view and registration alike, and a roster
  that refuses a request keeps every entry.
-/

------------------------------------------------------------
-- Limits
------------------------------------------------------------

namespace CallDiagnosis

namespace LimitCache

variable {σ : Type}
variable (host : Host surroundings σ)
variable (level : Log.Level)
variable (state : σ)
variable (cache : LimitCache)

/- A capture that fails captures nothing. -/
theorem capture_of_error
    (path : String)
    (fault : Fault)
    (hFailed :
      ((cache.capture path).run host level state).value.1 =
        .error fault) :
    ((cache.capture path).run host level state).value.2 =
      cache := by
  by_cases hRefused : path = "" ∨ cache.captured = true
  · exact
      (run_capture_refused host level state cache path
        hRefused).1
  · rcases not_or.mp hRefused with ⟨hPath, hCaptured⟩
    have hTaken :=
      value_capture host level state cache path hPath
        (by simpa using hCaptured)
    rw [hTaken] at hFailed
    cases hFailed

/- A request that fails leaves the limits as they were. -/
theorem perform_of_error
    (request : LimitRequest)
    (fault : Fault)
    (hFailed :
      ((cache.perform request).run
        host level state).value.1 = .error fault) :
    ((cache.perform request).run host level state).value.2 =
      cache := by
  cases request with
  | capture path =>
      cases hTaken :
          ((cache.capture path).run
            host level state).value.1 with
      | ok fresh =>
          simp [perform, hTaken, Except.map] at hFailed
      | error reason =>
          have hSame :=
            capture_of_error host level state cache path
              reason hTaken
          simpa [perform] using hSame
  | reset => cases hFailed
  | nameMax path => simp [perform]
  | pathMax path => simp [perform]
  | noTruncation path => simp [perform]
  | systemLimit limit => simp [perform]

end LimitCache

end CallDiagnosis

------------------------------------------------------------
-- Rosters
------------------------------------------------------------

namespace CallDiagnosis

namespace Roster

variable (r : Roster)
variable (fault : RegistryFault)

/- A name that is refused does not change a roster. -/
theorem register_of_error
    (owner : Owner)
    (taken : String)
    (hFailed :
      (Registrar.register r owner taken).1 = .error fault) :
    (Registrar.register r owner taken).2 = r := by
  rcases register_cases r owner taken with
    ⟨reason, hRefused⟩ | ⟨-, after, hGranted, -⟩
  · rw [hRefused]
  · rw [hGranted] at hFailed
    cases hFailed

/- A name that nobody holds cannot be given up. -/
theorem unregister_of_error
    (given : String)
    (hFailed :
      (Registrar.unregister r given).1 = .error fault) :
    (Registrar.unregister r given).2 = r := by
  change (r.unregister given).1 = .error fault at hFailed
  change (r.unregister given).2 = r
  unfold unregister at hFailed ⊢
  split at hFailed
  · cases hFailed
  · rename_i hFree
    rw [if_neg hFree]

end Roster

end CallDiagnosis

------------------------------------------------------------
-- Sessions
------------------------------------------------------------

namespace CallDiagnosis

namespace Session

variable {V R : Type}

section Runs

variable {σ : Type}
variable (host : Host surroundings σ)
variable (level : Log.Level)
variable (state : σ)
variable (s : Session V R)

/- A directive that is refused changes no setting. -/
theorem directive_of_error
    (word : String)
    (arguments : List String)
    (fault : Fault)
    (hFailed :
      ((s.directive word arguments).run
        host level state).value.1 = .error fault) :
    ((s.directive word arguments).run
      host level state).value.2 = s := by
  cases hChange : s.settings.change? word arguments with
  | ok settings =>
      simp [directive, Settings.directive, hChange] at hFailed
  | error reason =>
      simp [directive, Settings.directive, hChange]

variable [Viewpoint V]
variable [Registrar R]

/-
  Only an event about a path can fail, and it fails before
  anything is done about it.
-/
theorem handle_of_error
    (event : Event)
    (fault : Fault)
    (hFailed :
      ((s.handle event).run host level state).value.1 =
        .error fault) :
    ((s.handle event).run host level state).value.2 = s := by
  cases event with
  | changesRoot path =>
      have hRoot :=
        run_beforeRootChange host level state s path
      cases hTaken :
          ((s.limits.capture path).run
            host level state).value.1 with
      | ok fresh =>
          simp [handle, react, hRoot, hTaken, Except.map]
            at hFailed
      | error reason =>
          have hSame :=
            LimitCache.capture_of_error host level state
              s.limits path reason hTaken
          simp [handle, react, hRoot, hSame]
  | changedDirectory path =>
      by_cases hPath : path = ""
      · simp [handle, react, afterDirectoryChange, hPath]
      · simp [handle, react, afterDirectoryChange, hPath]
          at hFailed
  | unload unloaded =>
      by_cases hName : unloaded = name
      · simp [handle, react, hName] at hFailed
      · simp [handle, react, hName]
  | settingsRead => simp [handle, react] at hFailed
  | restart => simp [handle, react] at hFailed
  | shutdown => simp [handle, react] at hFailed

/- A request of a session's own that fails changes nothing. -/
theorem perform_of_error
    (request : Request)
    (hOwn : request.Own)
    (fault : Fault)
    (hFailed :
      ((s.perform request).run host level state).value.1 =
        .error fault) :
    ((s.perform request).run host level state).value.2 =
      s := by
  cases request with
  | event event =>
      cases hResult :
          ((s.handle event).run
            host level state).value.1 with
      | ok granted =>
          simp [perform, hResult, Except.map] at hFailed
      | error reason =>
          have hSame :=
            handle_of_error host level state s event reason
              hResult
          simpa [perform] using hSame
  | directive word arguments =>
      cases hResult :
          ((s.directive word arguments).run
            host level state).value.1 with
      | ok granted =>
          simp [perform, hResult, Except.map] at hFailed
      | error reason =>
          have hSame :=
            directive_of_error host level state s word
              arguments reason hResult
          simpa [perform] using hSame
  | limit request =>
      cases hResult :
          ((s.limits.perform request).run
            host level state).value.1 with
      | ok granted =>
          simp [perform, hResult, Except.map] at hFailed
      | error reason =>
          have hSame :=
            LimitCache.perform_of_error host level state
              s.limits request reason hResult
          simp [perform, hSame]
  | explain e call => simp [perform]
  | describe e call => simp [perform]
  | walk e path intent expected => simp [perform]
  | watch signals => cases hFailed
  | guestRegister taken => cases hOwn
  | guestUnregister given => cases hOwn

end Runs

variable [Viewpoint V]
variable [Registrar R]

/-
  Whatever a session went through, and whoever answers its
  questions, a request of its own that fails leaves the whole
  session as it was.  A roster that refuses to let a name be
  taken or given up, by anybody, is left as it was as well.
-/
theorem failure_changes_nothing :
    (∀ (s : Session V R) {σ : Type}
        (host : Host surroundings σ) (level : Log.Level)
        (state : σ) (request : Request) (fault : Fault),
      request.Own →
      ((s.perform request).run host level state).value.1 =
        .error fault →
      ((s.perform request).run host level state).value.2 =
        s) ∧
    ∀ (r : Roster) (name : String) (fault : RegistryFault),
      (∀ owner,
        (Registrar.register r owner name).1 = .error fault →
        (Registrar.register r owner name).2 = r) ∧
      ((Registrar.unregister r name).1 = .error fault →
        (Registrar.unregister r name).2 = r) := by
  constructor
  · intro s σ host level state request fault hOwn hFailed
    exact perform_of_error host level state s request hOwn
      fault hFailed
  · intro r name fault
    constructor
    · intro owner hFailed
      exact r.register_of_error fault owner name hFailed
    · intro hFailed
      exact r.unregister_of_error fault name hFailed

/-
  The latecomer is told twice that it went wrong, and the
  guest whose name it wanted is still there.
-/
theorem failure_changes_nothing_of_latecomer :
    ((latecomer.perform
        (.directive "ExplainEngine" ["maybe"])).run
        Scenario.host .off bareSystem).value =
      (.error (.ofDirective (.expectedBoolean .engine)),
        latecomer) ∧
    ((latecomer.perform (.event (.changesRoot ""))).run
        Scenario.host .off bareSystem).value =
      (.error (.invalidArgument .path), latecomer) ∧
    (Registrar.register latecomer.registry .session
        name).2 =
      latecomer.registry := by
  have hFailure :=
    failure_changes_nothing
      (V := WorkingDirectory) (R := Roster)
  refine ⟨?_, ?_, ?_⟩
  · refine Prod.ext rfl ?_
    exact hFailure.1 latecomer Scenario.host .off bareSystem
      (.directive "ExplainEngine" ["maybe"])
      (.ofDirective (.expectedBoolean .engine)) trivial rfl
  · refine Prod.ext rfl ?_
    exact hFailure.1 latecomer Scenario.host .off bareSystem
      (.event (.changesRoot ""))
      (.invalidArgument .path) trivial rfl
  · exact
      (hFailure.2 latecomer.registry name
        (.rejected name "already registered")).1
        .session rfl

end Session

end CallDiagnosis
