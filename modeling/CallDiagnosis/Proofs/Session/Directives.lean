import CallDiagnosis.Proofs.Session.Series
import CallDiagnosis.Proofs.Settings.Grammar
import CallDiagnosis.Scenario

/-
  What directives make of the settings of a session.

  Key definitions include:
    * `CallDiagnosis.LastSet`
    * `CallDiagnosis.Settings.Initial`
    * `CallDiagnosis.Settings.Follows`
    * `CallDiagnosis.Session.ObeysGrammar`

  Key theorems include:
    * `CallDiagnosis.Session.directive_follows`
    * `CallDiagnosis.Session.directives_obey_grammar`

  A directive that says something sets it, and one that does
  not leaves the session as it is.  So after any number of
  directives each setting is what was said about it last.
-/

------------------------------------------------------------
-- Values that are Set in Turn
------------------------------------------------------------

namespace CallDiagnosis

/-
  A value that deeds may set: the one that was set last, or
  the first one as long as none was set.
-/
inductive LastSet
    {α β : Type}
    (Sets : α → β → Prop)
    (first : β) :
    List α → β → Prop where
| untouched
    {deeds : List α}
    (hNone : ∀ deed ∈ deeds, ∀ value, ¬ Sets deed value) :
    LastSet Sets first deeds first
| last
    {before after : List α}
    {deed : α}
    {value : β}
    (hSets : Sets deed value)
    (hSince : ∀ later ∈ after, ∀ other, ¬ Sets later other) :
    LastSet Sets first (before ++ deed :: after) value

/- A deed sets the value, or it leaves it as it is. -/
def SetsOrKeeps
    {α β : Type}
    (Sets : α → β → Prop)
    (deed : α)
    (before after : β) :
    Prop :=
  Sets deed after ∨
    (∀ value, ¬ Sets deed value) ∧ after = before

/- A deed comes before all others. -/
theorem LastSet.cons
    {α β : Type}
    {Sets : α → β → Prop}
    {first second final : β}
    {deed : α}
    {deeds : List α}
    (hDeed : SetsOrKeeps Sets deed first second)
    (hDeeds : LastSet Sets second deeds final) :
    LastSet Sets first (deed :: deeds) final := by
  cases hDeeds with
  | untouched hNone =>
      rcases hDeed with hSets | ⟨hIdle, rfl⟩
      · have hLast :
            LastSet Sets first ([] ++ deed :: deeds) second :=
          .last hSets hNone
        exact hLast
      · exact .untouched
          (List.forall_mem_cons.mpr ⟨hIdle, hNone⟩)
  | @last before after latest value hSets hSince =>
      have hLast :
          LastSet Sets first
            ((deed :: before) ++ latest :: after) final :=
        .last hSets hSince
      exact hLast

end CallDiagnosis

------------------------------------------------------------
-- Settings
------------------------------------------------------------

namespace CallDiagnosis

/- A directive sets the engine. -/
def SetsEngine
    (d : String × List String)
    (state : Bool) :
    Prop :=
  Says d.1 d.2 (.engine state)

/- A directive sets the verbosity. -/
def SetsVerbosity
    (d : String × List String)
    (verbosity : Verbosity) :
    Prop :=
  Says d.1 d.2 (.verbosity verbosity)

/- No directive is about two settings. -/
theorem SetsEngine.not_setsVerbosity
    {d : String × List String}
    {state : Bool}
    (hEngine : SetsEngine d state)
    (verbosity : Verbosity) :
    ¬ SetsVerbosity d verbosity := by
  rcases d with ⟨name, arguments⟩
  have hNamed :=
    Directive.ofName?_eq_some_iff_sameLetters name
  intro hVerbosity
  have hFirst : Directive.ofName? name = some .engine := by
    cases hEngine with
    | engine hName hWord => exact (hNamed _).mpr hName
  have hSecond : Directive.ofName? name = some .verbosity := by
    cases hVerbosity with
    | verbosity hName hWord => exact (hNamed _).mpr hName
  rw [hFirst] at hSecond
  cases hSecond

/- A directive that is refused says nothing. -/
theorem Refused.not_says
    {name : String}
    {arguments : List String}
    {fault : DirectiveFault}
    (hRefused : Refused name arguments fault)
    (setting : Setting) :
    ¬ Says name arguments setting := by
  intro hSays
  have hGranted := Settings.standard.change?_of_says hSays
  rw [Settings.standard.change?_of_refused hRefused]
    at hGranted
  cases hGranted

namespace Settings

/- The settings that a session may begin with. -/
inductive Initial :
    Settings → Prop where
| standard :
    Initial standard
| ofHost
    {σ : Type}
    (host : Host surroundings σ)
    (level : Log.Level)
    (state : σ)
    (flags : UInt32)
    (verbosity : Int32) :
    Initial
      ((ofHost flags verbosity).run host level state).value

/- No session begins with a tuning switch. -/
theorem Initial.options_eq
    {s : Settings}
    (hInitial : s.Initial) :
    s.options = .empty := by
  cases hInitial with
  | standard => rfl
  | ofHost host level state flags verbosity =>
      cases hNumber : Verbosity.ofNumber? verbosity.toInt with
      | some v =>
          simp [Settings.ofHost, hNumber, Settings.standard]
      | none =>
          simp [Settings.ofHost, hNumber, Settings.standard]

/- Settings before and after a directive. -/
structure Follows
    (d : String × List String)
    (before after : Settings) :
    Prop where
  engine :
    SetsOrKeeps SetsEngine d before.engine after.engine
  verbosity :
    SetsOrKeeps SetsVerbosity d
      before.verbosity after.verbosity
  options : after.options = before.options

end Settings

end CallDiagnosis

------------------------------------------------------------
-- Single Directives
------------------------------------------------------------

namespace CallDiagnosis

section Runs

variable {σ : Type}
variable (host : Host surroundings σ)
variable (level : Log.Level)
variable (state : σ)

/- Settings are changed as the directive says. -/
theorem Settings.value_directive
    (s : Settings)
    (name : String)
    (arguments : List String) :
    ((s.directive name arguments).run
        host level state).value =
      s.change? name arguments := by
  cases hChange : s.change? name arguments with
  | error fault => simp [directive, hChange]
  | ok after => simp [directive, hChange]

namespace Session

variable {V R : Type}
variable (s : Session V R)

theorem value_directive_of_says
    {name : String}
    {arguments : List String}
    {setting : Setting}
    (hSays : Says name arguments setting) :
    ((s.directive name arguments).run
        host level state).value =
      (.ok (),
        { s with settings := s.settings.put setting }) := by
  simp [directive, Settings.value_directive,
    s.settings.change?_of_says hSays]

theorem value_directive_of_refused
    {name : String}
    {arguments : List String}
    {fault : DirectiveFault}
    (hRefused : Refused name arguments fault) :
    ((s.directive name arguments).run
        host level state).value =
      (.error (.ofDirective fault), s) := by
  simp [directive, Settings.value_directive,
    s.settings.change?_of_refused hRefused]

/- One directive changes the settings by what it says. -/
theorem directive_follows
    (d : String × List String) :
    ∃ after,
      ((s.directive d.1 d.2).run host level state).value.2 =
        { s with settings := after } ∧
      s.settings.Follows d after := by
  rcases says_or_refused d.1 d.2 with
    ⟨setting, hSays⟩ | ⟨fault, hRefused⟩
  · refine ⟨s.settings.put setting, ?_, ?_⟩
    · rw [s.value_directive_of_says host level state hSays]
    · cases setting with
      | engine on =>
          have hEngine : SetsEngine d on := hSays
          exact
            ⟨.inl hEngine,
              .inr ⟨hEngine.not_setsVerbosity, rfl⟩, rfl⟩
      | verbosity verbosity =>
          have hVerbosity : SetsVerbosity d verbosity := hSays
          refine ⟨.inr ⟨?_, rfl⟩, .inl hVerbosity, rfl⟩
          intro on hEngine
          exact hEngine.not_setsVerbosity verbosity hVerbosity
  · refine ⟨s.settings, ?_, ?_⟩
    · rw [s.value_directive_of_refused host level state
        hRefused]
    · exact
        ⟨.inr ⟨fun _ => hRefused.not_says _, rfl⟩,
          .inr ⟨fun _ => hRefused.not_says _, rfl⟩, rfl⟩

end Session

end Runs

end CallDiagnosis

------------------------------------------------------------
-- Directives in a Row
------------------------------------------------------------

namespace CallDiagnosis

namespace Session

variable {V R : Type}
variable [Viewpoint V]
variable [Registrar R]
variable {σ : Type}
variable (host : Host surroundings σ)
variable (level : Log.Level)

/- The requests for some directives. -/
def requests
    (directives : List (String × List String)) :
    List Request :=
  directives.map (fun d => .directive d.1 d.2)

/- Directives in a row set what was said last. -/
theorem directives_follow
    (directives : List (String × List String))
    (state : σ)
    (s : Session V R) :
    ∃ engine verbosity,
      LastSet SetsEngine s.settings.engine
        directives engine ∧
      LastSet SetsVerbosity s.settings.verbosity
        directives verbosity ∧
      ((s.performAll (requests directives)).run
          host level state).value.2 =
        { s with
          settings :=
            ⟨engine, verbosity, s.settings.options⟩ } := by
  induction directives generalizing state s with
  | nil =>
      exact ⟨_, _, .untouched (by simp), .untouched (by simp),
        rfl⟩
  | cons d rest ih =>
      rcases s.directive_follows host level state d with
        ⟨after, hAfter, hFollows⟩
      have hPerform :
          ((s.perform (.directive d.1 d.2)).run
              host level state).value.2 =
            { s with settings := after } := by
        simpa [perform] using hAfter
      rcases ih
          ((s.perform (.directive d.1 d.2)).run
            host level state).state
          { s with settings := after } with
        ⟨engine, verbosity, hEngine, hVerbosity, hRest⟩
      refine ⟨engine, verbosity, hEngine.cons hFollows.engine,
        hVerbosity.cons hFollows.verbosity, ?_⟩
      rw [requests, List.map_cons, run_performAll_cons,
        Run.followedBy_value, Run.map_value, hPerform]
      rw [requests] at hRest
      rw [hRest, hFollows.options]

/-
  What a session makes of directives.  A single one is granted
  exactly if it says something, and refused with the reason
  otherwise; then it sets what it says, or nothing at all.
  After any number of them each setting is what was said last.
-/
structure ObeysGrammar
    (state : σ)
    (s : Session V R) :
    Prop where
  granted :
    ∀ name arguments after,
      ((s.settings.directive name arguments).run
          host level state).value = .ok after ↔
        ∃ setting,
          Says name arguments setting ∧
          after = s.settings.put setting
  refused :
    ∀ name arguments fault,
      ((s.settings.directive name arguments).run
          host level state).value = .error fault ↔
        Refused name arguments fault
  sets :
    ∀ name arguments setting,
      Says name arguments setting →
      ((s.directive name arguments).run
          host level state).value =
        (.ok (),
          { s with settings := s.settings.put setting })
  keeps :
    ∀ name arguments fault,
      Refused name arguments fault →
      ((s.directive name arguments).run
          host level state).value =
        (.error (.ofDirective fault), s)
  row :
    s.settings.Initial →
    ∀ directives, ∃ engine verbosity,
      LastSet SetsEngine s.settings.engine
        directives engine ∧
      LastSet SetsVerbosity s.settings.verbosity
        directives verbosity ∧
      ((s.performAll (requests directives)).run
          host level state).value.2 =
        { s with settings := ⟨engine, verbosity, .empty⟩ }

/-
  A directive is granted exactly if, but for the case of
  letters, it names the engine or the verbosity and has one
  word for it, and it changes that setting alone.  Any other
  is refused for its reason and changes nothing.  From the
  settings of a new session on, no tuning switch is ever set,
  and the other settings are what was said about them last.
-/
theorem directives_obey_grammar
    (state : σ)
    (s : Session V R) :
    s.ObeysGrammar host level state where
  granted name arguments after := by
    rw [Settings.value_directive]
    exact s.settings.change?_eq_ok_iff name arguments after
  refused name arguments fault := by
    rw [Settings.value_directive]
    exact s.settings.change?_eq_error_iff name arguments fault
  sets name arguments setting :=
    s.value_directive_of_says host level state
  keeps name arguments fault :=
    s.value_directive_of_refused host level state
  row hInitial directives := by
    rw [← hInitial.options_eq]
    exact directives_follow host level directives state s

/- A system on which there is nothing. -/
def blankSystem : Scenario :=
  ⟨[], 0, .standard⟩

/- A session whose host wants no engine, and little told. -/
def hushed : Session WorkingDirectory Roster :=
  start
    ((Settings.ofHost 1 0).run
      Scenario.host .off blankSystem).value
    (.ofPath "/") .empty

/- Only the first of these says something. -/
def muddled : List (String × List String) :=
  [
    ("EXPLAINENGINE", ["Yes"]), ("ExplainOptions", ["fast"]),
    ("explainverbosity", ["TERSE", "now"]),
    ("Expla\u0130nEngine", ["off"])
  ]

/- The engine is on again, and nothing else has changed. -/
theorem directives_obey_grammar_of_hushed :
    Refused "explainverbosity" ["TERSE", "now"]
      (.wrongCount .verbosity) ∧
    Refused "Expla\u0130nEngine" ["off"]
      (.unknownDirective "Expla\u0130nEngine") ∧
    LastSet SetsEngine false muddled true ∧
    LastSet SetsVerbosity .minimal muddled .minimal := by
  have hObeys :=
    directives_obey_grammar Scenario.host .off blankSystem
      hushed
  refine ⟨(hObeys.refused _ _ _).mp (by decide),
    (hObeys.refused _ _ _).mp (by decide), ?_⟩
  rcases hObeys.row (.ofHost _ _ _ _ _) muddled with
    ⟨engine, verbosity, hEngine, hVerbosity, hLast⟩
  have hSettings :
      Settings.mk true .minimal .empty =
        ⟨engine, verbosity, .empty⟩ :=
    congrArg Session.settings hLast
  cases hSettings
  exact ⟨hEngine, hVerbosity⟩

end Session

end CallDiagnosis
