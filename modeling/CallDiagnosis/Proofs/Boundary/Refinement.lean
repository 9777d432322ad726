import CallDiagnosis.Proofs.Boundary.Requests

/-
  A host's session beside a session of one's own.

  Key definitions include:
    * `CallDiagnosis.Boundary.opened`
    * `CallDiagnosis.Boundary.Alongside`
    * `CallDiagnosis.Boundary.Served`

  Key theorems include:
    * `CallDiagnosis.Boundary.Alongside.handle_eq`
    * `CallDiagnosis.Boundary.served`
    * `CallDiagnosis.Boundary.commands_refine_requests`

  A host speaks to its session in numbers, bytes and statuses.
  Beside it runs a session that is given requests instead.
  After every command the two are the same session and have
  asked and noted the same, and the host is told no more and
  no less than what the replies to the requests say.
-/

------------------------------------------------------------
-- Sessions Side by Side
------------------------------------------------------------

namespace CallDiagnosis

namespace Boundary

/- A record of settings that is large enough to be read. -/
def RawSettings.Accepted :
    Option RawSettings → Prop
| none => True
| some raw => RawSettings.fullSize ≤ raw.size

instance :
    (raw : Option RawSettings) →
      Decidable (RawSettings.Accepted raw)
| none => isTrue trivial
| some raw =>
    inferInstanceAs
      (Decidable (RawSettings.fullSize ≤ raw.size))

/-
  A session of one's own with the settings that a host asks
  for, after it was told that its settings have been read.
-/
def opened
    (directory : WorkingDirectory)
    (raw : Option RawSettings) :
    Consult HostSession := do
  let settings ←
    match raw with
    | none => pure .standard
    | some numbers =>
        Settings.ofHost numbers.flags numbers.verbosity
  let s : HostSession :=
    Session.start settings directory Roster.empty
  let (_, ready) ← s.performAll [.event .settingsRead]
  return ready

/-
  A host's handle beside a session of one's own, from the
  creation of the host's session on.  Each command may meet
  another world, which is the same for both.
-/
inductive Alongside
    (directory : WorkingDirectory)
    (raw : Option RawSettings) :
    Handle → HostSession → Prop where
| created
    {σ : Type}
    (host : Host surroundings σ)
    (level : Log.Level)
    (state : σ)
    (memory : Memory)
    (past : Handle) :
    Alongside directory raw
      ((perform directory memory past (.create raw)).run
        host level state).value.2
      ((opened directory raw).run host level state).value
| step
    {handle : Handle}
    {s : HostSession}
    {σ : Type}
    (host : Host surroundings σ)
    (level : Log.Level)
    (state : σ)
    (memory : Memory)
    (command : Command)
    (hKeeps : command.Keeps)
    (hPast : Alongside directory raw handle s) :
    Alongside directory raw
      ((perform directory memory handle command).run
        host level state).value.2
      ((s.performAll (command.requests s)).run
        host level state).value.2

section Runs

variable {σ : Type}
variable (host : Host surroundings σ)
variable (level : Log.Level)
variable (state : σ)
variable (directory : WorkingDirectory)
variable (raw : Option RawSettings)

/- The end of a session asks nothing. -/
theorem state_destroy
    (handle : Handle) :
    ((destroy handle).run host level state).state =
      state := by
  cases handle with
  | none => rfl
  | some s =>
      by_cases hRegistered : s.registered = true
      · rcases hUnregister :
            Registrar.unregister s.registry Session.name with
          ⟨result, registry⟩
        cases result with
        | ok given =>
            simp [destroy, Session.close, Session.uninstall,
              hRegistered, hUnregister]
        | error fault =>
            simp [destroy, Session.close, Session.uninstall,
              hRegistered, hUnregister]
      · simp [destroy, Session.close, Session.uninstall,
          hRegistered]

/- A creation from an accepted record opens a session. -/
theorem run_create
    (hAccepted : RawSettings.Accepted raw) :
    (create directory raw).run host level state =
      ((opened directory raw).run host level state).map
        some := by
  cases raw with
  | none =>
      simp [create, opened, readSettings, Session.handle,
        Session.react, Session.perform, Run.map,
        Run.followedBy]
  | some numbers =>
      have hRead : ¬ numbers.size < RawSettings.fullSize :=
        UInt32.not_lt.mpr hAccepted
      simp [create, opened, readSettings, hRead,
        Session.handle, Session.react, Session.perform,
        Run.map, Run.followedBy]

end Runs

/- Both sides hold the same session at any time. -/
theorem Alongside.handle_eq
    {directory : WorkingDirectory}
    {raw : Option RawSettings}
    {handle : Handle}
    {s : HostSession}
    (hAccepted : RawSettings.Accepted raw)
    (hAlongside : Alongside directory raw handle s) :
    handle = some s := by
  induction hAlongside with
  | created host level state memory past =>
      simp [perform, state_destroy,
        run_create host level state directory raw hAccepted,
        Run.map]
  | @step handle s σ host level state memory command hKeeps
      hPast ih =>
      have hRun :=
        run_perform host level state directory memory s
          command hKeeps
      rw [ih]
      exact congrArg Run.value hRun

end Boundary

end CallDiagnosis

------------------------------------------------------------
-- What a Host Is Told
------------------------------------------------------------

namespace CallDiagnosis

namespace Boundary

namespace Command

/- A command that reports something to a session. -/
def Reports :
    Command → Prop
| .changesRoot _ => True
| .changedDirectory _ => True
| .restart => True
| .watch _ => True
| _ => False

/- The path that a command reports, as the host lends it. -/
def reportedPath? :
    Command → Option TextView
| .changesRoot lent => some lent
| .changedDirectory lent => some lent
| _ => none

end Command

/- The status of several requests is that of the first fault. -/
def statusOfReplies :
    List (Except Fault Reply) → Status
| [] => .ok
| .ok _ :: rest => statusOfReplies rest
| .error fault :: _ => fault.status

/- A text as it reaches a host, if there is memory for it. -/
def relay
    (memory : Memory)
    (text : String) :
    Answer :=
  if memory.Holds text then
    .explained .ok (some (.fresh text))
  else
    .explained .ioError (some .cleared)

/- A description as it reaches a host. -/
def relayText
    (memory : Memory) :
    Except Fault String → Answer
| .ok text => relay memory text
| .error fault => .explained fault.status (some .cleared)

/- What a walk has found, as it reaches a host. -/
def relayDiagnosis
    (memory : Memory) :
    Except Fault (Option Diagnosis) → Answer
| .ok (some found) => relay memory found.text
| .ok none => .explained .noExplanation (some .cleared)
| .error fault => .explained fault.status (some .cleared)

section Rules

variable {σ : Type}
variable (host : Host surroundings σ)
variable (level : Log.Level)
variable (state : σ)
variable (directory : WorkingDirectory)
variable (memory : Memory)
variable (s : HostSession)

/- What a host is told after a command to its session. -/
def told
    (command : Command) :
    Answer :=
  ((perform directory memory (some s) command).run
    host level state).value.1

/- What a session replies to the requests of a command. -/
def replies
    (command : Command) :
    List (Except Fault Reply) :=
  ((s.performAll (command.requests s)).run
    host level state).value.1

/-
  A host is served by its session as by a session of one's
  own: each command leaves the same session behind and asks
  and notes the same, and what the host is told follows from
  what that session says.
-/
structure Served :
    Prop where
  moves
    (command : Command)
    (hKeeps : command.Keeps) :
    ((perform directory memory (some s) command).run
        host level state).map Prod.snd =
      ((s.performAll (command.requests s)).run
        host level state).map (fun done => some done.2)
  report
    (command : Command)
    (hReports : command.Reports)
    (hRead :
      ∀ lent,
        command.reportedPath? = some lent →
          lent.read? ≠ none) :
    told host level state directory memory s command =
      .status
        (statusOfReplies
          (replies host level state s command))
  unreadReport
    (command : Command)
    (lent : TextView)
    (hPath : command.reportedPath? = some lent)
    (hUnread : lent.read? = none) :
    told host level state directory memory s command =
      .status .invalidArgument
  notFailed
    (topic : Topic)
    (call : Call)
    (hCall : topic.call? = some call)
    (slot : Slot) :
    told host level state directory memory s
        (.explain .success topic (some slot)) =
      .explained .notAnError (some .cleared)
  described
    (e : Errno)
    (hFailed : e ≠ .success)
    (topic : Topic)
    (call : Call)
    (hCall : topic.call? = some call)
    (slot : Slot) :
    told host level state directory memory s
        (.explain e topic (some slot)) =
      relayText memory
        ((s.describe e call).run host level state).value
  walked
    (e : Errno)
    (topic : Topic)
    (path : String)
    (intent : Intent)
    (expected : ExpectedKind)
    (hWalk : topic.walk? = some (path, intent, expected))
    (slot : Slot)
    (hOn : s.Enabled) :
    told host level state directory memory s
        (.explain e topic (some slot)) =
      relayDiagnosis memory
        ((walk s.context e path intent expected).run
          host level state).value
  disabled
    (e : Errno)
    (topic : Topic)
    (hWalk : topic.walk? ≠ none)
    (slot : Slot) :
    (∃ left,
      told host level state directory memory s
          (.explain e topic (some slot)) =
        .explained .disabled left) ↔
      ¬ s.Enabled

end Rules

end Boundary

end CallDiagnosis

------------------------------------------------------------
-- The Rules Are Kept
------------------------------------------------------------

namespace CallDiagnosis

namespace Boundary

variable {σ : Type}
variable (host : Host surroundings σ)
variable (level : Log.Level)
variable (state : σ)
variable (directory : WorkingDirectory)
variable (memory : Memory)
variable (s : HostSession)

/- A single request is reported by its own status. -/
theorem statusOfReplies_singleton
    (result : Except Fault Unit) :
    statusOfReplies [result.map (fun _ => .done)] =
      statusOf result := by
  cases result with
  | ok granted => rfl
  | error fault => rfl

/- An event is reported by the status of its outcome. -/
theorem told_report
    (command : Command)
    (hReports : command.Reports)
    (hRead :
      ∀ lent,
        command.reportedPath? = some lent →
          lent.read? ≠ none) :
    told host level state directory memory s command =
      .status
        (statusOfReplies
          (replies host level state s command)) := by
  cases command with
  | changesRoot lent =>
      rcases Option.ne_none_iff_exists'.mp (hRead lent rfl)
        with ⟨path, hPath⟩
      simp [told, replies, perform, changesRoot, pathEvent,
        handleEvent, Command.requests, hPath,
        Session.perform, Run.map, statusOfReplies_singleton]
  | changedDirectory lent =>
      rcases Option.ne_none_iff_exists'.mp (hRead lent rfl)
        with ⟨path, hPath⟩
      simp [told, replies, perform, changedDirectory,
        pathEvent, handleEvent, Command.requests, hPath,
        Session.perform, Run.map, statusOfReplies_singleton]
  | restart =>
      simp [told, replies, perform, restart, handleEvent,
        Session.handle, Session.react, statusOf,
        Command.requests, Session.performAll,
        Session.perform, Except.map, statusOfReplies]
  | watch label =>
      simp [told, replies, perform, watch, Command.requests,
        Session.perform, Run.map, statusOfReplies]
  | create raw => cases hReports
  | destroy => cases hReports
  | explain e topic out => cases hReports

/- A path that cannot be read is reported to nobody. -/
theorem told_unreadReport
    (command : Command)
    (lent : TextView)
    (hPath : command.reportedPath? = some lent)
    (hUnread : lent.read? = none) :
    told host level state directory memory s command =
      .status .invalidArgument := by
  cases command with
  | changesRoot other =>
      cases hPath
      simp [told, perform, changesRoot, pathEvent, hUnread]
  | changedDirectory other =>
      cases hPath
      simp [told, perform, changedDirectory, pathEvent,
        hUnread]
  | _ => cases hPath

/- A call that did not fail needs no session. -/
theorem told_notFailed
    (topic : Topic)
    (call : Call)
    (hCall : topic.call? = some call)
    (slot : Slot) :
    told host level state directory memory s
        (.explain .success topic (some slot)) =
      .explained .notAnError (some .cleared) := by
  simp [told, perform, answer_of_call? _ _ _ _ _ _ hCall,
    answerReadCall, clear]

/- A text is written into a cleared slot as it is relayed. -/
theorem explained_write
    (text : String) :
    Answer.explained
        (write memory text (some .cleared)).1
        (write memory text (some .cleared)).2 =
      relay memory text := by
  by_cases hRoom : memory.Holds text
  · simp only [write, relay, hRoom, if_true]
  · simp only [write, relay, hRoom, if_false]

/- A call that failed is described by the session. -/
theorem told_described
    (e : Errno)
    (hFailed : e ≠ .success)
    (topic : Topic)
    (call : Call)
    (hCall : topic.call? = some call)
    (slot : Slot) :
    told host level state directory memory s
        (.explain e topic (some slot)) =
      relayText memory
        ((s.describe e call).run host level state).value := by
  cases hText :
      ((s.describe e call).run host level state).value with
  | error fault =>
      simp [told, perform, answer_of_call? _ _ _ _ _ _ hCall,
        answerReadCall, hFailed, hText, Except.map, deliver,
        clear, relayText]
  | ok text =>
      simp [told, perform, answer_of_call? _ _ _ _ _ _ hCall,
        answerReadCall, hFailed, hText, Except.map, deliver,
        clear, relayText, explained_write]

/- A path is walked in the context of the session. -/
theorem told_walked
    (e : Errno)
    (topic : Topic)
    (path : String)
    (intent : Intent)
    (expected : ExpectedKind)
    (hWalk : topic.walk? = some (path, intent, expected))
    (slot : Slot)
    (hOn : s.Enabled) :
    told host level state directory memory s
        (.explain e topic (some slot)) =
      relayDiagnosis memory
        ((walk s.context e path intent expected).run
          host level state).value := by
  have hAnswer :=
    answer_of_walk? memory s e topic (some slot) path intent
      expected hWalk
  rw [if_pos hOn] at hAnswer
  rcases hFound :
      ((walk s.context e path intent expected).run
        host level state).value with
    fault | found | diagnosis
  · simp [told, perform, hAnswer, hFound, Except.map,
      deliver, clear, relayDiagnosis]
  · simp [told, perform, hAnswer, hFound, Except.map,
      deliver, clear, relayDiagnosis]
  · simp [told, perform, hAnswer, hFound, Except.map,
      deliver, clear, relayDiagnosis, explained_write]

/- The switches decide whether a path is walked at all. -/
theorem told_disabled_iff
    (e : Errno)
    (topic : Topic)
    (hAsks : topic.Asks e)
    (out : Option Slot) :
    (∃ left,
      told host level state directory memory s
          (.explain e topic out) =
        .explained .disabled left) ↔
      ¬ s.Enabled := by
  rw [← disabled_answer_iff host level state memory s e topic
    out hAsks]
  simp [told, perform]

/- Every host is served by its session. -/
theorem served :
    Served host level state directory memory s where
  moves command hKeeps :=
    run_perform host level state directory memory s command hKeeps
  report := told_report host level state directory memory s
  unreadReport :=
    told_unreadReport host level state directory memory s
  notFailed := told_notFailed host level state directory memory s
  described :=
    told_described host level state directory memory s
  walked := told_walked host level state directory memory s
  disabled e topic hWalk slot :=
    told_disabled_iff host level state directory memory s e
      topic (.inr hWalk) (some slot)

end Boundary

end CallDiagnosis

------------------------------------------------------------
-- Commands Refine Requests
------------------------------------------------------------

namespace CallDiagnosis

namespace Boundary

/-
  Whatever a host commands after the creation of its session,
  and however the world answers, it holds the session that
  runs beside its own, and is served by it ever after.
-/
theorem commands_refine_requests
    {directory : WorkingDirectory}
    {raw : Option RawSettings}
    {handle : Handle}
    {s : HostSession}
    (hAccepted : RawSettings.Accepted raw)
    (hAlongside : Alongside directory raw handle s) :
    handle = some s ∧
    ∀ {σ : Type} (host : Host surroundings σ)
      (level : Log.Level) (state : σ) (memory : Memory),
      Served host level state directory memory s := by
  constructor
  · exact hAlongside.handle_eq hAccepted
  · intro σ host level state memory
    exact served host level state directory memory s

/- A record of numbers that asks for the engine to be off. -/
def quietSettings : RawSettings :=
  ⟨RawSettings.fullSize, Settings.engineOff, 1⟩

/- A session of one's own that was opened with its engine off. -/
def quiet : HostSession :=
  ((opened (.ofPath "/") (some quietSettings)).run
    Scenario.host .off Session.bareSystem).value

/-
  The host that asked for the engine to be off holds the quiet
  session, which walks no path until it is restarted.
-/
theorem commands_refine_requests_of_quiet :
    ((perform (.ofPath "/") .ample none
        (.create (some quietSettings))).run
      Scenario.host .off Session.bareSystem).value.2 =
      some quiet ∧
    told Scenario.host .off Session.bareSystem (.ofPath "/")
        .ample quiet
        (.explain .success (.stat (.noData 0))
          (some (.stale "previous"))) =
      .explained .notAnError (some .cleared) ∧
    ∃ left,
      told Scenario.host .off Session.bareSystem
          (.ofPath "/") .ample quiet
          (.explain .enoent (.path (.lent ⟨#[47]⟩) 1 0)
            (some (.stale "previous"))) =
        .explained .disabled left := by
  have hCreated :
      Alongside (.ofPath "/") (some quietSettings) _ quiet :=
    .created Scenario.host .off Session.bareSystem .ample none
  rcases
      commands_refine_requests (by decide) hCreated with
    ⟨hHandle, hServed⟩
  have hNow :=
    hServed Scenario.host .off Session.bareSystem .ample
  refine ⟨hHandle, ?_, ?_⟩
  · exact hNow.notFailed _ (.stat "") rfl _
  · exact (hNow.disabled _ _ (by decide) _).mpr (by decide)

end Boundary

end CallDiagnosis
