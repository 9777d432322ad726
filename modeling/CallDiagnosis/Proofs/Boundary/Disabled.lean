import Mathlib.Logic.Function.Basic
import CallDiagnosis.Proofs.Boundary.Refinement
import CallDiagnosis.Proofs.Session.Failure

/-
  When the sessions of a host are disabled.

  Key definitions include:
    * `CallDiagnosis.Boundary.Holdings`
    * `CallDiagnosis.Boundary.Dealings`
    * `CallDiagnosis.Boundary.KeptOff`
    * `CallDiagnosis.Boundary.Sound`

  Key theorems include:
    * `CallDiagnosis.Boundary.Kept.perform`
    * `CallDiagnosis.Boundary.Dealings.kept`
    * `CallDiagnosis.Boundary.disabled_iff_kept_off`

  A host can hold many sessions.  Each has a registry that
  nobody else uses, so nothing ever refuses it: a session is
  registered exactly while its engine is on.  The engine is
  on unless the session was created without it, and a restart
  turns it on for good.
-/

------------------------------------------------------------
-- Hosts with Many Sessions
------------------------------------------------------------

namespace CallDiagnosis

namespace Boundary

/- The sessions in the hands of a host, each in its place. -/
abbrev Holdings : Type :=
  Nat → Handle

/-
  A command with the place of the handle that goes with it,
  or with the null handle.
-/
structure Order where
  place : Option Nat
  command : Command

namespace Holdings

/- The handle that a host passes on. -/
def passed
    (h : Holdings)
    (place : Option Nat) :
    Handle :=
  place.bind h

/- Put a handle back into its place, if it has one. -/
def keep
    (h : Holdings)
    (place : Option Nat)
    (handle : Handle) :
    Holdings :=
  match place with
  | none => h
  | some i => Function.update h i handle

/- What a host holds after an order. -/
def after
    {σ : Type}
    (host : Host surroundings σ)
    (level : Log.Level)
    (state : σ)
    (directory : WorkingDirectory)
    (memory : Memory)
    (h : Holdings)
    (order : Order) :
    Holdings :=
  h.keep order.place
    ((perform directory memory (h.passed order.place)
      order.command).run host level state).value.2

end Holdings

/-
  The dealings of a host that holds nothing at first, the
  latest order first.  Each order may meet another world.
-/
inductive Dealings :
    List Order → Holdings → Prop where
| new :
    Dealings [] (fun _ => none)
| step
    {orders : List Order}
    {h : Holdings}
    {σ : Type}
    (host : Host surroundings σ)
    (level : Log.Level)
    (state : σ)
    (directory : WorkingDirectory)
    (memory : Memory)
    (order : Order)
    (hPast : Dealings orders h) :
    Dealings (order :: orders)
      (h.after host level state directory memory order)

/- The commands that went with the handle of a place. -/
def commandsAt
    (place : Nat)
    (orders : List Order) :
    List Command :=
  (orders.filter fun order =>
    order.place = some place).map Order.command

/-
  The session was created with its engine off and has not been
  restarted since.
-/
def KeptOff
    (commands : List Command) :
    Prop :=
  ∃ since raw earlier,
    commands = since ++ .create (some raw) :: earlier ∧
    raw.flags &&& Settings.engineOff ≠ 0 ∧
    ∀ command ∈ since, command.Keeps ∧ command ≠ .restart

end Boundary

end CallDiagnosis

------------------------------------------------------------
-- Engines that Are Kept Off
------------------------------------------------------------

namespace CallDiagnosis

namespace Boundary

variable (commands : List Command)

/- A creation says whether the engine is off. -/
theorem keptOff_create
    (raw : Option RawSettings) :
    KeptOff (.create raw :: commands) ↔
      ∃ numbers,
        raw = some numbers ∧
        numbers.flags &&& Settings.engineOff ≠ 0 := by
  constructor
  · rintro ⟨since, numbers, earlier, hCommands, hOff, hSince⟩
    cases since with
    | nil =>
        cases hCommands
        exact ⟨numbers, rfl, hOff⟩
    | cons latest since =>
        cases hCommands
        cases (hSince _ List.mem_cons_self).1
  · rintro ⟨numbers, rfl, hOff⟩
    exact ⟨[], numbers, commands, rfl, hOff, by simp⟩

/- After a restart the engine is not kept off. -/
theorem not_keptOff_restart :
    ¬ KeptOff (.restart :: commands) := by
  rintro ⟨since, numbers, earlier, hCommands, hOff, hSince⟩
  cases since with
  | nil => cases hCommands
  | cons latest since =>
      cases hCommands
      exact (hSince _ List.mem_cons_self).2 rfl

/- No other command has to do with it. -/
theorem keptOff_cons
    (command : Command)
    (hKeeps : command.Keeps)
    (hOther : command ≠ .restart) :
    KeptOff (command :: commands) ↔ KeptOff commands := by
  constructor
  · rintro ⟨since, numbers, earlier, hCommands, hOff, hSince⟩
    cases since with
    | nil =>
        cases hCommands
        cases hKeeps
    | cons latest since =>
        cases hCommands
        exact
          ⟨since, numbers, earlier, rfl, hOff,
            fun c hMember =>
              hSince c (List.mem_cons_of_mem _ hMember)⟩
  · rintro ⟨since, numbers, earlier, rfl, hOff, hSince⟩
    refine
      ⟨command :: since, numbers, earlier, rfl, hOff, ?_⟩
    rw [List.forall_mem_cons]
    exact ⟨⟨hKeeps, hOther⟩, hSince⟩

end Boundary

end CallDiagnosis

------------------------------------------------------------
-- Sessions that Nobody Refuses
------------------------------------------------------------

namespace CallDiagnosis

namespace Boundary

/- The roster of a session that is registered on its own. -/
def ownRoster : Roster :=
  ⟨[(Session.name, .session)], none⟩

/-
  A session whose registration follows its engine, and whose
  roster holds nothing else.
-/
structure Sound
    (s : HostSession) :
    Prop where
  registered_eq :
    s.registered = s.settings.engine
  registry_eq :
    s.registry =
      if s.registered then ownRoster else Roster.empty

/- A sound session is enabled while its engine is on. -/
theorem Sound.enabled_iff
    {s : HostSession}
    (hSound : Sound s) :
    s.Enabled ↔ s.settings.engine = true := by
  simp [Session.Enabled, hSound.registered_eq]

/- A session that holds nothing is installed at its wish. -/
theorem sound_installed
    (s : HostSession)
    (hOut : s.registered = false)
    (hEmpty : s.registry = Roster.empty) :
    Sound s.installed ∧ s.installed.settings = s.settings := by
  cases hEngine : s.settings.engine with
  | false =>
      have hSame : s.installed = s := by
        simp [Session.installed, hEngine]
      rw [hSame]
      refine ⟨⟨?_, ?_⟩, rfl⟩
      · rw [hOut, hEngine]
      · simp [hOut, hEmpty]
  | true =>
      have hGranted :
          Registrar.register Roster.empty .session
              Session.name =
            (.ok (), ownRoster) :=
        rfl
      have hIn :
          s.installed =
            { s with
              registry := ownRoster
              registered := true } := by
        simp [Session.installed, hEngine, hOut, hEmpty,
          hGranted]
      rw [hIn]
      exact ⟨⟨hEngine.symm, rfl⟩, rfl⟩

/- A release empties the roster of a sound session. -/
theorem Sound.registry_released
    {s : HostSession}
    (hSound : Sound s) :
    s.released.registry = Roster.empty := by
  have hRegistry := hSound.registry_eq
  cases hIn : s.registered with
  | false => simpa [Session.released, hIn] using hRegistry
  | true =>
      have hGiven :
          (Registrar.unregister ownRoster Session.name).2 =
            Roster.empty :=
        rfl
      rw [hIn, if_pos rfl] at hRegistry
      simp [Session.released, hIn, hRegistry, hGiven]

/- Nothing stands in the way of a restart. -/
theorem Sound.restarted
    {s : HostSession}
    (hSound : Sound s) :
    Sound s.released.forgetLimits.engineOn.installed ∧
      s.released.forgetLimits.engineOn.installed.settings.engine =
        true := by
  have hInstalled :=
    sound_installed s.released.forgetLimits.engineOn
      s.registered_released hSound.registry_released
  exact ⟨hInstalled.1, by rw [hInstalled.2]; rfl⟩

/- Two sessions with the same switches and the same roster. -/
structure SameSwitches
    (s t : HostSession) :
    Prop where
  settings_eq : t.settings = s.settings
  registry_eq : t.registry = s.registry
  registered_eq : t.registered = s.registered

theorem SameSwitches.sound
    {s t : HostSession}
    (hSame : SameSwitches s t)
    (hSound : Sound s) :
    Sound t where
  registered_eq := by
    rw [hSame.registered_eq, hSame.settings_eq,
      hSound.registered_eq]
  registry_eq := by
    rw [hSame.registry_eq, hSame.registered_eq,
      hSound.registry_eq]

end Boundary

end CallDiagnosis

------------------------------------------------------------
-- The Switches after a Command
------------------------------------------------------------

namespace CallDiagnosis

namespace Boundary

variable {σ : Type}
variable (host : Host surroundings σ)
variable (level : Log.Level)
variable (state : σ)
variable (directory : WorkingDirectory)
variable (memory : Memory)

/- A flag says whether the engine is on. -/
theorem engine_ofHost
    (flags : UInt32)
    (verbosity : Int32) :
    ((Settings.ofHost flags verbosity :
        Consult Settings).run
      host level state).value.engine =
      decide (flags &&& Settings.engineOff = 0) := by
  cases hNumber : Verbosity.ofNumber? verbosity.toInt with
  | some v => simp [Settings.ofHost, hNumber]
  | none => simp [Settings.ofHost, hNumber]

/- The numbers of a host can keep the engine off. -/
theorem engine_readSettings
    (raw : Option RawSettings)
    (settings : Settings)
    (hRead :
      ((readSettings raw).run host level state).value =
        some settings) :
    settings.engine = false ↔
      ∃ numbers,
        raw = some numbers ∧
        numbers.flags &&& Settings.engineOff ≠ 0 := by
  cases raw with
  | none =>
      cases hRead
      simp [Settings.standard]
  | some numbers =>
      by_cases hSize : numbers.size < RawSettings.fullSize
      · simp [readSettings, hSize] at hRead
      · simp only [readSettings, hSize, if_false,
          Inquiry.run_bind, Inquiry.run_pure,
          Run.followedBy_value, Option.some.injEq] at hRead
        rw [← hRead, engine_ofHost]
        simp

/- A session is created sound, and its engine as it was asked. -/
theorem value_create
    (raw : Option RawSettings)
    (s : HostSession)
    (hCreated :
      ((create directory raw).run host level state).value =
        some s) :
    Sound s ∧
      (s.settings.engine = false ↔
        ∃ numbers,
          raw = some numbers ∧
          numbers.flags &&& Settings.engineOff ≠ 0) := by
  cases hRead :
      ((readSettings raw).run host level state).value with
  | none => simp [create, hRead] at hCreated
  | some settings =>
      have hEngine :=
        engine_readSettings host level state raw settings
          hRead
      have hInstalled :=
        sound_installed
          (Session.start settings directory Roster.empty) rfl
          rfl
      have hSession :
          (Session.start settings directory
              Roster.empty).installed = s := by
        simpa [create, hRead, Session.handle, Session.react]
          using hCreated
      rw [hSession] at hInstalled
      refine ⟨hInstalled.1, ?_⟩
      rw [hInstalled.2]
      exact hEngine

/- A command that goes with the null handle is lost. -/
theorem value_perform_null
    (command : Command)
    (hKeeps : command.Keeps) :
    ((perform directory memory none command).run
      host level state).value.2 = none := by
  cases command with
  | create raw => cases hKeeps
  | destroy => rfl
  | changesRoot lent =>
      simp [perform, changesRoot, pathEvent]
  | changedDirectory lent =>
      simp [perform, changedDirectory, pathEvent]
  | restart => rfl
  | watch label => rfl
  | explain e topic out => simp [perform]

section Requests

variable (s : HostSession)

/- A change of the root throws no switch. -/
theorem sameSwitches_changesRoot
    (path : String) :
    SameSwitches s
      ((s.handle (.changesRoot path)).run
        host level state).value.2 := by
  rw [Session.handle_next]
  exact ⟨rfl, rfl, rfl⟩

/- A change of the directory throws no switch. -/
theorem sameSwitches_changedDirectory
    (path : String) :
    SameSwitches s
      ((s.handle (.changedDirectory path)).run
        host level state).value.2 := by
  rw [Session.handle_next]
  by_cases hPath : path = ""
  · simp only [Session.afterEvent, hPath, if_true]
    exact ⟨rfl, rfl, rfl⟩
  · simp only [Session.afterEvent, hPath, if_false]
    exact ⟨rfl, rfl, rfl⟩

/- Nor does a path that cannot be read. -/
theorem sameSwitches_pathEvent
    (lent : TextView)
    (event : String → Event)
    (hEvent :
      ∀ path,
        SameSwitches s
          ((s.handle (event path)).run
            host level state).value.2) :
    ∃ t,
      ((pathEvent (some s) lent event).run
        host level state).value.2 = some t ∧
      SameSwitches s t := by
  cases hRead : lent.read? with
  | none =>
      refine ⟨s, ?_, rfl, rfl, rfl⟩
      simp [pathEvent, hRead]
  | some path =>
      refine ⟨_, ?_, hEvent path⟩
      simp [pathEvent, handleEvent, hRead]

/- Only a restart throws a switch of a session. -/
theorem sameSwitches_perform
    (command : Command)
    (hKeeps : command.Keeps)
    (hOther : command ≠ .restart) :
    ∃ t,
      ((perform directory memory (some s) command).run
        host level state).value.2 = some t ∧
      SameSwitches s t := by
  cases command with
  | create raw => cases hKeeps
  | destroy => cases hKeeps
  | restart => cases hOther rfl
  | watch label => exact ⟨_, rfl, rfl, rfl, rfl⟩
  | explain e topic out =>
      exact ⟨s, by simp [perform], rfl, rfl, rfl⟩
  | changesRoot lent =>
      simpa [perform, changesRoot] using
        sameSwitches_pathEvent host level state s lent
          .changesRoot
          (sameSwitches_changesRoot host level state s)
  | changedDirectory lent =>
      simpa [perform, changedDirectory] using
        sameSwitches_pathEvent host level state s lent
          .changedDirectory
          (sameSwitches_changedDirectory host level state s)

/- A restart installs the session anew. -/
theorem value_restart :
    ((perform directory memory (some s) .restart).run
        host level state).value =
      (.status .ok,
        some s.released.forgetLimits.engineOn.installed) := by
  simp [perform, restart, handleEvent, Session.handle,
    Session.react, statusOf]

end Requests

end Boundary

end CallDiagnosis

------------------------------------------------------------
-- The Switches along Dealings
------------------------------------------------------------

namespace CallDiagnosis

namespace Boundary

/-
  What is held in one place is sound, and its engine is off
  exactly if the commands that it was given kept it off.
-/
def Kept
    (handle : Handle)
    (commands : List Command) :
    Prop :=
  ∀ s,
    handle = some s →
      Sound s ∧
      (s.settings.engine = false ↔ KeptOff commands)

/- A command leaves a place as it is to be. -/
theorem Kept.perform
    {handle : Handle}
    {commands : List Command}
    (hKept : Kept handle commands)
    {σ : Type}
    (host : Host surroundings σ)
    (level : Log.Level)
    (state : σ)
    (directory : WorkingDirectory)
    (memory : Memory)
    (command : Command) :
    Kept
      ((Boundary.perform directory memory handle command).run
        host level state).value.2
      (command :: commands) := by
  intro t hHeld
  by_cases hKeeps : command.Keeps
  · cases handle with
    | none =>
        rw [value_perform_null host level state directory
          memory command hKeeps] at hHeld
        cases hHeld
    | some s =>
        rcases hKept s rfl with ⟨hSound, hEngine⟩
        by_cases hRestart : command = .restart
        · subst hRestart
          rw [value_restart] at hHeld
          cases hHeld
          rcases hSound.restarted with ⟨hAfter, hOn⟩
          refine ⟨hAfter, ?_⟩
          simp [hOn, not_keptOff_restart]
        · rcases
              sameSwitches_perform host level state directory
                memory s command hKeeps hRestart with
            ⟨after, hAfter, hSame⟩
          rw [hAfter] at hHeld
          cases hHeld
          refine ⟨hSame.sound hSound, ?_⟩
          rw [hSame.settings_eq,
            keptOff_cons commands command hKeeps hRestart]
          exact hEngine
  · cases command with
    | create raw =>
        rw [keptOff_create]
        apply value_create host level
          ((destroy handle).run host level state).state
          directory raw t
        simpa [Boundary.perform] using hHeld
    | destroy => simp [Boundary.perform] at hHeld
    | _ => exact absurd trivial hKeeps

/- Whatever a host dealt with, every place is as it is to be. -/
theorem Dealings.kept
    {orders : List Order}
    {h : Holdings}
    (hDealings : Dealings orders h)
    (place : Nat) :
    Kept (h place) (commandsAt place orders) := by
  induction hDealings with
  | new =>
      intro s hHeld
      cases hHeld
  | @step orders h σ host level state directory memory order
      hPast ih =>
      rcases order with ⟨at?, command⟩
      by_cases hPlace : at? = some place
      · subst hPlace
        have hKept :=
          ih.perform host level state directory memory
            command
        simpa [Holdings.after, Holdings.keep, Holdings.passed,
          commandsAt] using hKept
      · have hCommands :
            commandsAt place (⟨at?, command⟩ :: orders) =
              commandsAt place orders := by
          simp [commandsAt, hPlace]
        rw [hCommands]
        cases at? with
        | none => exact ih
        | some other =>
            have hOther : place ≠ other := by
              rintro rfl
              exact hPlace rfl
            simpa [Holdings.after, Holdings.keep, hOther]
              using ih

end Boundary

end CallDiagnosis

------------------------------------------------------------
-- Orders that Come to Nothing
------------------------------------------------------------

namespace CallDiagnosis

namespace Boundary

/- The path of an event or of a topic, as the host lends it. -/
def Command.lentPath? :
    Command → Option TextView
| .explain _ (.path lent _ _) _ => some lent
| .explain _ topic _ => topic.callPath?
| command => command.reportedPath?

/-
  An order that neither makes a session nor ends one, with
  the null handle or with a path that is empty or cannot be
  read.
-/
def Holdings.Idle
    (h : Holdings)
    (order : Order) :
    Prop :=
  order.command.Keeps ∧
  (h.passed order.place = none ∨
    ∃ lent,
      order.command.lentPath? = some lent ∧
      (lent.read? = none ∨ lent.read? = some ""))

variable {σ : Type}
variable (host : Host surroundings σ)
variable (level : Log.Level)
variable (state : σ)
variable (directory : WorkingDirectory)
variable (memory : Memory)

/- The empty path is refused as a root. -/
theorem value_changesRoot_empty
    (s : HostSession) :
    ((s.handle (.changesRoot "")).run
        host level state).value.1 =
      .error (.invalidArgument .path) := by
  simp [Session.handle, Session.react,
    Session.beforeRootChange, LimitCache.capture]

/- The empty path is refused as a directory. -/
theorem value_changedDirectory_empty
    (s : HostSession) :
    ((s.handle (.changedDirectory "")).run
        host level state).value.1 =
      .error (.invalidArgument .path) := by
  simp [Session.handle, Session.react,
    Session.afterDirectoryChange]

/- An event with an empty path is refused and forgotten. -/
theorem handle_pathEvent_idle
    (s : HostSession)
    (lent : TextView)
    (event : String → Event)
    (hRefused :
      ((s.handle (event "")).run host level state).value.1 =
        .error (.invalidArgument .path))
    (hPath : lent.read? = none ∨ lent.read? = some "") :
    ((pathEvent (some s) lent event).run
      host level state).value.2 = some s := by
  rcases hPath with hRead | hRead
  · simp [pathEvent, hRead]
  · have hSame :=
      Session.handle_of_error host level state s (event "")
        (.invalidArgument .path) hRefused
    simp [pathEvent, handleEvent, hRead, hSame]

/- Without a path to speak of a command changes nothing. -/
theorem handle_perform_idle
    (s : HostSession)
    (command : Command)
    (lent : TextView)
    (hLent : command.lentPath? = some lent)
    (hPath : lent.read? = none ∨ lent.read? = some "") :
    ((perform directory memory (some s) command).run
      host level state).value.2 = some s := by
  cases command with
  | changesRoot other =>
      cases hLent
      simpa [perform, changesRoot] using
        handle_pathEvent_idle host level state s lent
          .changesRoot
          (value_changesRoot_empty host level state s) hPath
  | changedDirectory other =>
      cases hLent
      simpa [perform, changedDirectory] using
        handle_pathEvent_idle host level state s lent
          .changedDirectory
          (value_changedDirectory_empty host level state s)
          hPath
  | explain e topic out => simp [perform]
  | create raw => cases hLent
  | destroy => cases hLent
  | restart => cases hLent
  | watch label => cases hLent

/- What a host puts back as it was has not changed. -/
theorem Holdings.keep_passed
    (h : Holdings)
    (place : Option Nat) :
    h.keep place (h.passed place) = h := by
  cases place with
  | none => rfl
  | some i => exact Function.update_eq_self i h

/- An order that comes to nothing changes no session. -/
theorem Holdings.after_idle
    (h : Holdings)
    (order : Order)
    (hIdle : h.Idle order) :
    h.after host level state directory memory order = h := by
  rcases hIdle with ⟨hKeeps, hNothing⟩
  have hHandle :
      ((perform directory memory (h.passed order.place)
        order.command).run host level state).value.2 =
        h.passed order.place := by
    cases hPassed : h.passed order.place with
    | none =>
        exact
          value_perform_null host level state directory
            memory order.command hKeeps
    | some s =>
        rcases hNothing with hNull | ⟨lent, hLent, hPath⟩
        · rw [hPassed] at hNull
          cases hNull
        · exact
            handle_perform_idle host level state directory
              memory s order.command lent hLent hPath
  rw [Holdings.after, hHandle]
  exact h.keep_passed order.place

end Boundary

end CallDiagnosis

------------------------------------------------------------
-- Sessions that Are Disabled
------------------------------------------------------------

namespace CallDiagnosis

namespace Boundary

/-
  Whatever a host dealt with, a restart of a session that it
  holds succeeds, and the session is reported as disabled
  exactly if it was created with its engine off and was not
  restarted since.  Orders with the null handle, or with a
  path that is empty or cannot be read, change nothing that
  is held.
-/
theorem disabled_iff_kept_off
    {orders : List Order}
    {h : Holdings}
    (hDealings : Dealings orders h)
    {σ : Type}
    (host : Host surroundings σ)
    (level : Log.Level)
    (state : σ)
    (directory : WorkingDirectory)
    (memory : Memory) :
    (∀ place s,
      h place = some s →
        told host level state directory memory s .restart =
          .status .ok ∧
        ∀ e topic out,
          topic.Asks e →
            ((∃ left,
              told host level state directory memory s
                  (.explain e topic out) =
                .explained .disabled left) ↔
              KeptOff (commandsAt place orders))) ∧
    ∀ order,
      h.Idle order →
        h.after host level state directory memory order = h := by
  constructor
  · intro place s hHeld
    rcases hDealings.kept place s hHeld with
      ⟨hSound, hEngine⟩
    constructor
    · rw [told, value_restart]
    · intro e topic out hAsks
      rw [told_disabled_iff host level state directory memory
        s e topic hAsks out, hSound.enabled_iff, ← hEngine,
        Bool.not_eq_true]
  · intro order hIdle
    exact
      h.after_idle host level state directory memory order
        hIdle

/- What a host holds that has created the quiet session. -/
def quietHoldings : Holdings :=
  Holdings.after Scenario.host .off Session.bareSystem
    (.ofPath "/") .ample (fun _ => none)
    ⟨some 0, .create (some quietSettings)⟩

/- The same after the quiet session has been restarted. -/
def wokenHoldings : Holdings :=
  quietHoldings.after Scenario.host .off Session.bareSystem
    (.ofPath "/") .ample ⟨some 0, .restart⟩

/-
  The quiet session is reported as disabled.  Its restart
  succeeds, and after that it is disabled no more.
-/
theorem disabled_iff_kept_off_of_quiet :
    quietHoldings 0 = some quiet ∧
    told Scenario.host .off Session.bareSystem (.ofPath "/")
        .ample quiet .restart =
      .status .ok ∧
    (∃ left,
      told Scenario.host .off Session.bareSystem
          (.ofPath "/") .ample quiet
          (.explain .enoent (.stat (.lent ⟨#[47]⟩)) none) =
        .explained .disabled left) ∧
    ∃ woken,
      wokenHoldings 0 = some woken ∧
      ¬ ∃ left,
        told Scenario.host .off Session.bareSystem
            (.ofPath "/") .ample woken
            (.explain .enoent (.stat (.lent ⟨#[47]⟩)) none) =
          .explained .disabled left := by
  have hQuiet : Dealings _ quietHoldings :=
    .step Scenario.host .off Session.bareSystem (.ofPath "/")
      .ample ⟨some 0, .create (some quietSettings)⟩ .new
  have hWoken : Dealings _ wokenHoldings :=
    hQuiet.step Scenario.host .off Session.bareSystem
      (.ofPath "/") .ample ⟨some 0, .restart⟩
  have hAsks :
      (Topic.stat (.lent ⟨#[47]⟩)).Asks .enoent :=
    .inl ⟨by decide, by decide⟩
  have hNow :=
    (disabled_iff_kept_off hQuiet Scenario.host .off
      Session.bareSystem (.ofPath "/") .ample).1 0 quiet rfl
  refine ⟨rfl, hNow.1, ?_, _, rfl, ?_⟩
  · refine (hNow.2 _ _ _ hAsks).mpr ?_
    exact
      (keptOff_create _ _).mpr
        ⟨quietSettings, rfl, by decide⟩
  · have hLater :=
      (disabled_iff_kept_off hWoken Scenario.host .off
        Session.bareSystem (.ofPath "/") .ample).1 0 _ rfl
    rw [hLater.2 _ _ _ hAsks]
    exact not_keptOff_restart _

end Boundary

end CallDiagnosis
