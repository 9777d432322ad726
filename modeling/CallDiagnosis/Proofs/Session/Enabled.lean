import CallDiagnosis.Proofs.Call.Outcome
import CallDiagnosis.Proofs.Session.Course
import CallDiagnosis.Proofs.Session.Ownership
import CallDiagnosis.Proofs.Settings.Change

/-
  When a session explains.

  Key definitions include:
    * `CallDiagnosis.Turn.Accepted`
    * `CallDiagnosis.Turn.engine?`
    * `CallDiagnosis.Turn.Standing`
    * `CallDiagnosis.Turn.engineAfter`

  Key theorems include:
    * `CallDiagnosis.Session.Course.registered_iff`
    * `CallDiagnosis.Session.Course.engine_eq`
    * `CallDiagnosis.Session.Course.answers_eq`
    * `CallDiagnosis.Session.enabled_follows_course`

  A session has two switches.  One says that the registry has
  taken the session in and that it was not released since; the
  other is set by whoever came last of a directive, a restart
  and a refusal of the registry.  Both can be read off what is
  observed of the session, and it explains while both are on.
-/

------------------------------------------------------------
-- Turns that Throw a Switch
------------------------------------------------------------

namespace CallDiagnosis

namespace Turn

/- The registry took the session in. -/
def Accepted
    (t : Turn) :
    Prop :=
  t.request = .event .settingsRead ∧
    ∃ answer ∈ t.answers, answer.isOk = true

/- The registry was asked to take the session in, and refused. -/
def Refused
    (t : Turn) :
    Prop :=
  t.request = .event .settingsRead ∧
    ∃ answer ∈ t.answers, answer.isOk = false

/- The session gave up its place in the registry. -/
def Releases
    (t : Turn) :
    Prop :=
  t.request = .event .restart ∨
    t.request = .event (.unload Session.name)

instance
    (t : Turn) :
    Decidable t.Accepted := by
  unfold Accepted
  infer_instance

instance
    (t : Turn) :
    Decidable t.Refused := by
  unfold Refused
  infer_instance

instance
    (t : Turn) :
    Decidable t.Releases := by
  unfold Releases
  infer_instance

/- What a turn sets the engine to, if it sets it. -/
def engine?
    (t : Turn) :
    Option Bool :=
  match t.request with
  | .directive word [value] =>
      if t.reply.isOk ∧
          Folded.Same word Directive.engine.name then
        switchOfWord? value
      else
        none
  | .event .restart => some true
  | .event .settingsRead =>
      if t.Refused then some false else none
  | _ => none

/-
  The registry took the session in since the start and since
  the session last gave up its place.
-/
def Standing
    (turns : List Turn) :
    Prop :=
  ∃ t ∈ turns.takeWhile fun t => ¬ t.Releases, t.Accepted

instance
    (turns : List Turn) :
    Decidable (Standing turns) := by
  unfold Standing
  infer_instance

/- The engine as the last turn that set it has left it. -/
def engineAfter
    (engine : Bool)
    (turns : List Turn) :
    Bool :=
  (turns.findSome? engine?).getD engine

/- A directive that is refused, or another, sets no engine. -/
theorem engine?_directive_eq_none
    (word : String)
    (arguments : List String)
    (reply : Except Fault Reply)
    (answers : List (Except RegistryFault Unit))
    (hIdle :
      ¬ (reply.isOk = true ∧
        Folded.Same word Directive.engine.name)) :
    engine? ⟨.directive word arguments, reply, answers⟩ =
      none := by
  match arguments with
  | [] => rfl
  | [value] => exact if_neg hIdle
  | _ :: _ :: _ => rfl

/- To be taken in is not to give up one's place. -/
theorem not_releases_of_accepted
    (t : Turn)
    (hAccepted : t.Accepted) :
    ¬ t.Releases := by
  simp [Releases, hAccepted.1]

theorem standing_cons
    (t : Turn)
    (turns : List Turn) :
    Standing (t :: turns) ↔
      t.Accepted ∨ ¬ t.Releases ∧ Standing turns := by
  unfold Standing
  by_cases hReleases : t.Releases
  · have hAccepted : ¬ t.Accepted := fun hAccepted =>
      not_releases_of_accepted t hAccepted hReleases
    simp [hReleases, hAccepted]
  · simp [hReleases]

/- Turns without an acceptance do not bring a session in. -/
theorem not_standing_append
    (later turns : List Turn)
    (hLater : ∀ t ∈ later, ¬ t.Accepted)
    (hTurns : ¬ Standing turns) :
    ¬ Standing (later ++ turns) := by
  induction later with
  | nil => exact hTurns
  | cons t later ih =>
      rw [List.forall_mem_cons] at hLater
      rw [List.cons_append, standing_cons]
      rintro (hAccepted | ⟨-, hStanding⟩)
      · exact hLater.1 hAccepted
      · exact ih hLater.2 hStanding

theorem engineAfter_cons
    (engine : Bool)
    (t : Turn)
    (turns : List Turn) :
    engineAfter engine (t :: turns) =
      t.engine?.getD (engineAfter engine turns) := by
  unfold engineAfter
  rw [List.findSome?_cons]
  cases t.engine? <;> rfl

end Turn

end CallDiagnosis

------------------------------------------------------------
-- The Switches after a Turn
------------------------------------------------------------

namespace CallDiagnosis

namespace Session

variable {V R : Type}
variable [Registrar R]

/-
  An attempt to install a session is answered at most once,
  and the answer throws its switches.
-/
theorem installed_cases
    (s : Session V R) :
    (s.bid = [] ∧ s.installed = s) ∨
    (∃ granted,
      s.bid = [.ok granted] ∧
      s.installed.registered = true ∧
      s.installed.settings = s.settings) ∨
    ∃ fault,
      s.bid = [.error fault] ∧
      s.registered = false ∧
      s.installed.registered = false ∧
      s.installed.settings.engine = false := by
  by_cases hOff :
      s.settings.engine = false ∨ s.registered = true
  · exact .inl (by simp [bid, installed, hOff])
  · have hOn : s.settings.engine = true := by
      simpa using (not_or.mp hOff).1
    have hOut : s.registered = false := by
      simpa using (not_or.mp hOff).2
    rcases hRegister :
        Registrar.register s.registry .session name with
      ⟨result, registry⟩
    cases result with
    | ok granted =>
        refine .inr (.inl ⟨granted, ?_⟩)
        simp [bid, installed, hOn, hOut, hRegister]
    | error fault =>
        refine .inr (.inr ⟨fault, ?_⟩)
        simp [bid, installed, hOn, hOut, hRegister, engineOff]

@[simp] theorem registered_released
    (s : Session V R) :
    s.released.registered = false := by
  by_cases hRegistered : s.registered = true
  · simp [released, hRegistered]
  · simp [released, hRegistered]

@[simp] theorem settings_released
    (s : Session V R) :
    s.released.settings = s.settings := by
  by_cases hRegistered : s.registered = true
  · simp [released, hRegistered]
  · simp [released, hRegistered]

section Steps

variable [Viewpoint V]
variable {σ : Type}
variable (host : Host surroundings σ)
variable (level : Log.Level)
variable (state : σ)
variable (s : Session V R)

/- A directive is granted exactly if the settings allow it. -/
theorem isOk_directive
    (word : String)
    (arguments : List String) :
    ((s.perform (.directive word arguments)).run
        host level state).value.1.isOk =
      (s.settings.change? word arguments).isOk := by
  cases hChange : s.settings.change? word arguments with
  | error fault =>
      simp [perform, directive, Settings.directive, hChange,
        Except.map, Except.isOk, Except.toBool]
  | ok settings =>
      simp [perform, directive, Settings.directive, hChange,
        Except.map, Except.isOk, Except.toBool]

/- What a directive sets the engine to can be observed. -/
theorem engine_directive
    (word : String)
    (arguments : List String) :
    (s.turn host level state
        (.directive word arguments)).engine?.getD
        s.settings.engine =
      (s.afterDirective word arguments).settings.engine := by
  have hReply :=
    isOk_directive host level state s word arguments
  cases hChange : s.settings.change? word arguments with
  | error fault =>
      have hRefused :
          ((s.perform (.directive word arguments)).run
              host level state).value.1.isOk = false := by
        rw [hReply, hChange]
        rfl
      rw [turn, Turn.engine?_directive_eq_none _ _ _ _
        (by simp [hRefused])]
      simp [afterDirective, hChange]
  | ok after =>
      have hGranted :
          ((s.perform (.directive word arguments)).run
              host level state).value.1.isOk = true := by
        rw [hReply, hChange]
        rfl
      rcases
          Settings.engine_change? s.settings after arguments
            word hChange with
        ⟨hEngine, value, rfl, hState⟩ |
        ⟨hOther, hSame⟩
      · simp [turn, Turn.engine?, hGranted, hEngine, hState,
          afterDirective, hChange]
      · rw [turn, Turn.engine?_directive_eq_none _ _ _ _
          (by simp [hOther])]
        simp [afterDirective, hChange, hSame]

/- Whether a session is registered after a turn. -/
theorem registered_turn
    (request : Request) :
    ((s.perform request).run
        host level state).value.2.registered = true ↔
      (s.turn host level state request).Accepted ∨
      ¬ (s.turn host level state request).Releases ∧
        s.registered = true := by
  rw [perform_next]
  unfold Turn.Accepted Turn.Releases turn
  rw [heard_eq]
  cases request with
  | event event =>
      cases event with
      | settingsRead =>
          rcases s.installed_cases with
            ⟨hBid, hSame⟩ |
            ⟨granted, hBid, hIn, -⟩ |
            ⟨fault, hBid, hOut, hStill, -⟩
          · simp [next, afterEvent, hBid, hSame]
          · simp [next, afterEvent, hBid, hIn, Except.isOk,
              Except.toBool]
          · simp [next, afterEvent, hBid, hOut, hStill,
              Except.isOk, Except.toBool]
      | changedDirectory path =>
          by_cases hPath : path = ""
          · simp [next, afterEvent, hPath]
          · simp [next, afterEvent, hPath]
      | restart =>
          simp [next, afterEvent, forgetLimits, engineOn]
      | unload unloaded =>
          by_cases hName : unloaded = name
          · simp [next, afterEvent, hName]
          · simp [next, afterEvent, hName]
      -- Nothing else has to do with the registration.
      | _ => simp [next, afterEvent, forgetLimits]
  | _ => simp [next, afterDirective, watch]

/- What the engine is set to after a turn. -/
theorem engine_turn
    (request : Request) :
    ((s.perform request).run
        host level state).value.2.settings.engine =
      (s.turn host level state request).engine?.getD
        s.settings.engine := by
  rw [perform_next]
  cases request with
  | event event =>
      cases event with
      | settingsRead =>
          rcases s.installed_cases with
            ⟨hBid, hSame⟩ |
            ⟨granted, hBid, -, hSettings⟩ |
            ⟨fault, hBid, -, -, hOff⟩
          · simp [next, afterEvent, hBid, hSame, turn,
              heard_eq, Turn.engine?, Turn.Refused]
          · simp [next, afterEvent, hBid, hSettings, turn,
              heard_eq, Turn.engine?, Turn.Refused,
              Except.isOk, Except.toBool]
          · simp [next, afterEvent, hBid, hOff, turn,
              heard_eq, Turn.engine?, Turn.Refused,
              Except.isOk, Except.toBool]
      | changedDirectory path =>
          by_cases hPath : path = ""
          · simp [next, afterEvent, hPath, turn, Turn.engine?]
          · simp [next, afterEvent, hPath, turn, Turn.engine?]
      | unload unloaded =>
          by_cases hName : unloaded = name
          · simp [next, afterEvent, hName, forgetLimits, turn,
              Turn.engine?]
          · simp [next, afterEvent, hName, turn, Turn.engine?]
      | _ =>
          simp [next, afterEvent, forgetLimits, engineOn, turn,
            Turn.engine?]
  | directive word arguments =>
      exact (engine_directive host level state s word
        arguments).symm
  | _ => simp [next, watch, turn, Turn.engine?]

/- A session that was refused is not registered. -/
theorem not_registered_of_refused
    (request : Request)
    (hRefused :
      (s.turn host level state request).Refused) :
    ((s.perform request).run
        host level state).value.2.registered = false := by
  rcases hRefused with ⟨hRequest, answer, hAnswer, hError⟩
  have hRead : request = .event .settingsRead := hRequest
  subst hRead
  rw [turn, heard_eq, if_pos rfl] at hAnswer
  rw [perform_next]
  rcases s.installed_cases with
    ⟨hBid, -⟩ | ⟨granted, hBid, -, -⟩ |
    ⟨fault, -, -, hStill, -⟩
  · simp [hBid] at hAnswer
  · rw [hBid, List.mem_singleton] at hAnswer
    rw [hAnswer] at hError
    cases hError
  · exact hStill

end Steps

end Session

end CallDiagnosis

------------------------------------------------------------
-- The Switches along a Course
------------------------------------------------------------

namespace CallDiagnosis

namespace Session

variable {V R : Type}
variable [Viewpoint V]
variable [Registrar R]
variable {first s : Session V R}
variable {turns : List Turn}

namespace Course

/- A session that starts outside is registered if it stands. -/
theorem registered_iff
    (hNew : first.registered = false)
    (hCourse : Course first turns s) :
    s.registered = true ↔ Turn.Standing turns := by
  induction hCourse with
  | new => simp [hNew, Turn.Standing]
  | step host level state request hPast ih =>
      rw [registered_turn, Turn.standing_cons, ih]

/- The last turn that sets the engine counts. -/
theorem engine_eq
    (hCourse : Course first turns s) :
    s.settings.engine =
      Turn.engineAfter first.settings.engine turns := by
  induction hCourse with
  | new => rfl
  | step host level state request hPast ih =>
      rw [engine_turn, Turn.engineAfter_cons, ih]

/-
  The registry is asked to take a session in when the settings
  are read while the engine is on and the session does not
  stand, and at no other time.
-/
theorem answers_eq
    (hNew : first.registered = false)
    (hCourse : Course first turns s)
    {σ : Type}
    (host : Host surroundings σ)
    (level : Log.Level)
    (state : σ)
    (request : Request) :
    (s.turn host level state request).answers =
      if request = .event .settingsRead ∧
          Turn.engineAfter first.settings.engine turns =
            true ∧
          ¬ Turn.Standing turns then
        [(Registrar.register s.registry .session name).1]
      else
        [] := by
  simp only [turn, heard_eq, ← hCourse.registered_iff hNew,
    ← hCourse.engine_eq]
  by_cases hRead : request = .event .settingsRead
  · cases hEngine : s.settings.engine with
    | false => simp [bid, hRead, hEngine]
    | true =>
        cases hIn : s.registered with
        | false => simp [bid, hRead, hEngine, hIn]
        | true => simp [bid, hRead, hIn]
  · simp [hRead]

/- After a refusal a session has to be taken in again. -/
theorem not_registered_since_refused
    {later earlier : List Turn}
    {refused : Turn}
    (hNew : first.registered = false)
    (hCourse :
      Course first (later ++ refused :: earlier) s)
    (hRefused : refused.Refused)
    (hLater : ∀ t ∈ later, ¬ t.Accepted) :
    s.registered = false := by
  -- What the session was like when it had just been refused.
  rcases hCourse.earlier with ⟨past, hPast⟩
  have hOut : past.registered = false := by
    cases hPast with
    | step host level state request hPast =>
        exact not_registered_of_refused host level state _
          request hRefused
  have hFallen : ¬ Turn.Standing (refused :: earlier) := by
    rw [← hPast.registered_iff hNew, hOut]
    decide
  rw [Bool.eq_false_iff, Ne, hCourse.registered_iff hNew]
  exact Turn.not_standing_append later _ hLater hFallen

end Course

end Session

end CallDiagnosis

------------------------------------------------------------
-- Explanations and the Switches
------------------------------------------------------------

namespace CallDiagnosis

namespace Session

variable {V R : Type}
variable [Viewpoint V]

/- A session that says no more than that it is disabled. -/
def Silent
    (s : Session V R) :
    Prop :=
  ∀ e call,
    s.explain e call = pure (.error .disabled) ∧
    s.describe e call = pure (.error .disabled)

/- A session that explains calls by the standard table. -/
def Outspoken
    (s : Session V R) :
    Prop :=
  ∀ e call,
    s.explain e call =
      CallTable.standard.explain s.context e call ∧
    s.describe e call = (do
      let explanation ←
        CallTable.standard.explain s.context e call
      return explanation.map
        (·.render e s.settings.verbosity))

theorem silent_of_not_enabled
    (s : Session V R)
    (hOff : ¬ s.Enabled) :
    s.Silent := by
  intro e call
  have hExplain :
      s.explain e call = pure (.error .disabled) :=
    if_neg hOff
  refine ⟨hExplain, ?_⟩
  unfold describe
  rw [hExplain]
  rfl

theorem outspoken_of_enabled
    (s : Session V R)
    (hOn : s.Enabled) :
    s.Outspoken := by
  intro e call
  have hExplain :
      s.explain e call =
        CallTable.standard.explain s.context e call :=
    if_pos hOn
  refine ⟨hExplain, ?_⟩
  unfold describe
  rw [hExplain]

section Runs

variable {σ : Type}
variable (host : Host surroundings σ)
variable (level : Log.Level)
variable (state : σ)
variable (s : Session V R)
variable (e : Errno)
variable (call : Call)

/- Only a session that is off calls itself disabled. -/
theorem explain_eq_disabled_iff :
    ((s.explain e call).run host level state).value =
        .error .disabled ↔
      ¬ s.Enabled := by
  constructor
  · intro hDisabled hOn
    have hOutcome :=
      Explain.outcome_explainerFor host level state s.context
        e call call.systemCall
    rw [(s.outspoken_of_enabled hOn e call).1,
      CallTable.explain, CallTable.get_standard] at hDisabled
    exact hOutcome.ne_disabled hDisabled
  · intro hOff
    rw [(s.silent_of_not_enabled hOff e call).1]
    rfl

/- A description is an explanation in other words. -/
theorem describe_eq_disabled_iff :
    ((s.describe e call).run host level state).value =
        .error .disabled ↔
      ¬ s.Enabled := by
  rw [← explain_eq_disabled_iff host level state s e call]
  unfold describe
  rw [Inquiry.run_bind, Run.followedBy_value]
  cases ((s.explain e call).run host level state).value with
  | error fault => simp [Except.map]
  | ok explanation => simp [Except.map]

end Runs

variable [Registrar R]

/-
  A session that was not registered at first is enabled after
  a course of turns exactly if it stands and the last turn
  that set its engine has turned it on.  Its registry is asked
  to take it in exactly when its settings are read while its
  engine is on and it does not stand.  Once refused, it is
  silent until it is taken in.  It is silent while it is
  disabled, only then calls itself so, and otherwise explains
  by the standard table in the verbosity that is set.
-/
theorem enabled_follows_course
    {first s : Session V R}
    {turns : List Turn}
    (hNew : first.registered = false)
    (hCourse : Course first turns s) :
    (s.Enabled ↔
      Turn.Standing turns ∧
      Turn.engineAfter first.settings.engine turns = true) ∧
    (∀ {σ : Type} (host : Host surroundings σ)
      (level : Log.Level) (state : σ) (request : Request),
      (s.turn host level state request).answers =
        if request = .event .settingsRead ∧
            Turn.engineAfter first.settings.engine turns =
              true ∧
            ¬ Turn.Standing turns then
          [(Registrar.register s.registry .session name).1]
        else
          []) ∧
    (∀ later refused earlier,
      turns = later ++ refused :: earlier →
      refused.Refused →
      (∀ t ∈ later, ¬ t.Accepted) →
      s.Silent) ∧
    (¬ s.Enabled → s.Silent) ∧
    (s.Enabled → s.Outspoken) ∧
    ∀ {σ : Type} (host : Host surroundings σ)
      (level : Log.Level) (state : σ) (e : Errno)
      (call : Call),
      (((s.explain e call).run host level state).value =
          .error .disabled ↔
        ¬ s.Enabled) ∧
      (((s.describe e call).run host level state).value =
          .error .disabled ↔
        ¬ s.Enabled) := by
  refine ⟨?_, ?_, ?_, s.silent_of_not_enabled,
    s.outspoken_of_enabled, ?_⟩
  · rw [← hCourse.registered_iff hNew, ← hCourse.engine_eq]
    exact And.comm
  · intro σ host level state request
    exact
      hCourse.answers_eq hNew host level state request
  · intro later refused earlier hTurns hRefused hLater
    subst hTurns
    have hOut :=
      hCourse.not_registered_since_refused hNew hRefused
        hLater
    refine s.silent_of_not_enabled fun hOn => ?_
    exact absurd (hOut.symm.trans hOn.2) (by decide)
  · intro σ host level state e call
    exact
      ⟨explain_eq_disabled_iff host level state s e call,
        describe_eq_disabled_iff host level state s e call⟩

/- The latecomer whose engine was turned on again. -/
def insistent : Session WorkingDirectory Roster :=
  ((latecomer.perform
      (.directive "explainengine" ["ON"])).run
    Scenario.host .off bareSystem).value.2

/- The same session after the guest has left it the place. -/
def welcome : Session WorkingDirectory Roster :=
  ((((insistent.perform (.guestUnregister name)).run
    Scenario.host .off bareSystem).value.2.perform
      (.event .settingsRead)).run
    Scenario.host .off bareSystem).value.2

/-
  Its engine is on, and yet it explains nothing, and it asks
  for the place again when it may.  Once it has the place, it
  explains and asks no more.
-/
theorem enabled_follows_course_of_insistent :
    insistent.settings.engine = true ∧
    ¬ insistent.Enabled ∧
    insistent.Silent ∧
    (insistent.turn Scenario.host .off bareSystem
        (.event .settingsRead)).answers =
      [.error (.rejected name "already registered")] ∧
    welcome.Enabled ∧
    welcome.Outspoken ∧
    (welcome.turn Scenario.host .off bareSystem
        (.event .settingsRead)).answers =
      [] := by
  have hTaken :=
    Course.step Scenario.host .off bareSystem
      (.guestRegister name)
      (.new :
        Course
          (start .standard (WorkingDirectory.ofPath "/")
            Roster.empty)
          [] _)
  have hRefused :=
    Course.step Scenario.host .off bareSystem
      (.event .settingsRead) hTaken
  have hCourse : Course _ _ insistent :=
    .step Scenario.host .off bareSystem
      (.directive "explainengine" ["ON"]) hRefused
  have hLeft :=
    Course.step Scenario.host .off bareSystem
      (.guestUnregister name) hCourse
  have hTakenIn : Course _ _ welcome :=
    .step Scenario.host .off bareSystem
      (.event .settingsRead) hLeft
  rcases enabled_follows_course rfl hCourse with
    ⟨hEnabled, hAnswers, hSilent, -⟩
  rcases enabled_follows_course rfl hTakenIn with
    ⟨hWelcome, hNoAnswers, -, -, hOutspoken, -⟩
  have hOn : welcome.Enabled :=
    hWelcome.mpr (by decide)
  refine ⟨by decide, ?_, ?_, ?_, hOn, hOutspoken hOn, ?_⟩
  · exact fun hOn => absurd (hEnabled.1 hOn) (by decide)
  · exact hSilent [_] _ _ rfl (by decide) (by decide)
  · rw [hAnswers, if_pos (by decide)]
    rfl
  · rw [hNoAnswers, if_neg (by decide)]

end Session

end CallDiagnosis
