import CallDiagnosis.Proofs.Inquiry.Steady
import CallDiagnosis.Proofs.Session.Enabled
import CallDiagnosis.Proofs.Session.Frame

/-
  Requests that do not depend on one another.

  Key definitions include:
    * `CallDiagnosis.Request.Blind`
    * `CallDiagnosis.Session.seenFrom`
    * `CallDiagnosis.kept`

  Key theorems include:
    * `CallDiagnosis.Session.run_perform_seenFrom`
    * `CallDiagnosis.Session.performAll_exchange`
    * `CallDiagnosis.Session.performAll_kept`
    * `CallDiagnosis.Session.requests_keep_to_their_parts`

  Only what resolves a path looks at the view of a session.
  Every other request may change places with a change of the
  working directory: what is replied and asked, and what is
  left behind, is the same in either order.  A request that
  may touch nothing can be left out altogether.
-/

------------------------------------------------------------
-- Requests that do not Look at the View
------------------------------------------------------------

namespace CallDiagnosis

namespace Request

/- A request that neither looks at the view nor changes it. -/
def Blind :
    Request → Prop
| .event (.changedDirectory _) => False
| .explain _ _ => False
| .describe _ _ => False
| .walk _ _ _ _ => False
| _ => True

/- A request that does not look at the view cannot touch it. -/
theorem Blind.view_not_mem_touched
    {request : Request}
    (hBlind : request.Blind) :
    Session.Part.view ∉ request.touched := by
  cases request with
  | event happening =>
      cases happening with
      | changedDirectory path => cases hBlind
      | unload unloaded =>
          by_cases hName : unloaded = Session.name
          · simp [touched, Event.touched, hName]
          · simp [touched, Event.touched, hName]
      | _ => simp [touched, Event.touched]
  | limit asked =>
      cases asked <;> simp [touched, LimitRequest.touched]
  | _ => simp [touched]

end Request

namespace Session

variable {V R : Type}

/- The session with another view of paths. -/
def seenFrom
    (s : Session V R)
    (view : V) :
    Session V R :=
  { s with view := view }

section Runs

variable {σ : Type}
variable (host : Host surroundings σ)
variable (level : Log.Level)
variable (state : σ)
variable (s : Session V R)
variable (view : V)

theorem run_beforeRootChange_seenFrom
    (path : String) :
    ((s.seenFrom view).beforeRootChange path).run
        host level state =
      ((s.beforeRootChange path).run host level state).map
        (fun done => (done.1, done.2.seenFrom view)) := by
  unfold beforeRootChange
  simp only [Inquiry.run_bind, seenFrom]
  rcases (s.limits.capture path).run host level state with
    ⟨⟨taken, limits⟩, after, exchanges, records⟩
  cases taken with
  | error fault => rfl
  | ok fresh =>
      cases fresh with
      | false => rfl
      | true => simp [Run.followedBy, Run.map]

theorem run_directive_seenFrom
    (word : String)
    (arguments : List String) :
    ((s.seenFrom view).directive word arguments).run
        host level state =
      ((s.directive word arguments).run
          host level state).map
        (fun done => (done.1, done.2.seenFrom view)) := by
  cases hChange : s.settings.change? word arguments with
  | error fault =>
      simp [directive, Settings.directive, seenFrom, hChange,
        Run.followedBy, Run.map]
  | ok settings =>
      simp [directive, Settings.directive, seenFrom, hChange,
        Run.followedBy, Run.map]

variable [Registrar R]

theorem run_install_seenFrom :
    ((s.seenFrom view).install).run host level state =
      ((s.install).run host level state).map
        (·.seenFrom view) := by
  by_cases hIdle :
      s.settings.engine = false ∨ s.registered = true
  · simp [install, seenFrom, hIdle, Run.map]
  · rcases hRegister :
        Registrar.register s.registry .session name with
      ⟨result, registry⟩
    cases result with
    | ok granted =>
        simp [install, seenFrom, hIdle, hRegister, Run.map]
    | error fault =>
        simp [install, seenFrom, hIdle, hRegister, Run.map,
          Run.followedBy, engineOff]

theorem run_uninstall_seenFrom :
    ((s.seenFrom view).uninstall).run host level state =
      ((s.uninstall).run host level state).map
        (·.seenFrom view) := by
  by_cases hRegistered : s.registered = true
  · rcases hUnregister :
        Registrar.unregister s.registry name with
      ⟨result, registry⟩
    cases result with
    | ok granted =>
        simp [uninstall, seenFrom, hRegistered, hUnregister,
          Run.map]
    | error fault =>
        simp [uninstall, seenFrom, hRegistered, hUnregister,
          Run.map, Run.followedBy]
  · simp [uninstall, seenFrom, hRegistered, Run.map]

variable [Viewpoint V]

/-
  A request that does not look at the view is carried out in
  the same way from everywhere.
-/
theorem run_perform_seenFrom
    (request : Request)
    (hBlind : request.Blind) :
    ((s.seenFrom view).perform request).run
        host level state =
      ((s.perform request).run host level state).map
        (fun done => (done.1, done.2.seenFrom view)) := by
  cases request with
  | event event =>
      cases event with
      | settingsRead =>
          simp [perform, handle, react, run_install_seenFrom,
            Run.followedBy, Run.map]
      | changesRoot path =>
          simp [perform, handle, react,
            run_beforeRootChange_seenFrom, Run.followedBy,
            Run.map]
      | changedDirectory path => cases hBlind
      | restart =>
          simp [perform, handle, react,
            run_uninstall_seenFrom, Run.followedBy, Run.map]
          rfl
      | shutdown =>
          simp [perform, handle, react, Run.followedBy,
            Run.map]
          rfl
      | unload unloaded =>
          have hForget :
              (s.seenFrom view).forgetLimits =
                s.forgetLimits.seenFrom view :=
            rfl
          by_cases hName : unloaded = name
          · simp [perform, handle, react, hName, hForget,
              run_uninstall_seenFrom, Run.followedBy, Run.map]
          · simp [perform, handle, react, hName,
              Run.followedBy, Run.map]
  | directive word arguments =>
      simp [perform, run_directive_seenFrom, Run.followedBy,
        Run.map]
  | limit request =>
      simp [perform, seenFrom, Run.followedBy, Run.map]
  | watch signals => rfl
  | guestRegister taken => rfl
  | guestUnregister given => rfl
  | explain e call => cases hBlind
  | describe e call => cases hBlind
  | walk e path intent expected => cases hBlind

end Runs

end Session

end CallDiagnosis

------------------------------------------------------------
-- Changes of the Directory
------------------------------------------------------------

namespace CallDiagnosis

namespace Session

variable {V R : Type}
variable [Viewpoint V]
variable [Registrar R]

/- The view after a change of the working directory. -/
def viewFrom
    (s : Session V R)
    (path : String) :
    V :=
  if path = "" then s.view else Viewpoint.enter s.view path

/- The reply to a change of the working directory. -/
def movedTo
    (path : String) :
    Except Fault Reply :=
  if path = "" then
    .error (.invalidArgument .path)
  else
    .ok .done

section Runs

variable {σ : Type}
variable (host : Host surroundings σ)
variable (level : Log.Level)
variable (state : σ)
variable (s : Session V R)

/- A change of the working directory is a change of the view. -/
theorem perform_changedDirectory
    (path : String) :
    ((s.perform (.event (.changedDirectory path))).run
        host level state).value =
      (movedTo path, s.seenFrom (s.viewFrom path)) ∧
    ((s.perform (.event (.changedDirectory path))).run
        host level state).state = state ∧
    ((s.perform (.event (.changedDirectory path))).run
        host level state).exchanges = [] := by
  by_cases hPath : path = ""
  · simp [perform, handle, react, afterDirectoryChange,
      movedTo, viewFrom, hPath, seenFrom, Except.map]
  · simp [perform, handle, react, afterDirectoryChange,
      movedTo, viewFrom, hPath, seenFrom, Except.map]

/- What does not look at the view does not move it either. -/
theorem viewFrom_perform
    (path : String)
    (request : Request)
    (hBlind : request.Blind) :
    ((s.perform request).run
        host level state).value.2.viewFrom path =
      s.viewFrom path := by
  have hAgree :
      ((s.perform request).run
        host level state).value.2.view = s.view :=
    agree_perform host level state s request .view
      hBlind.view_not_mem_touched
  unfold viewFrom
  rw [hAgree]

end Runs

end Session

end CallDiagnosis

------------------------------------------------------------
-- Requests that Change Places
------------------------------------------------------------

namespace CallDiagnosis

/-
  Two runs of requests that differ in the order of the two
  replies after the first ones, and in nothing else.
-/
def Run.ExchangedAt
    {V : Vocabulary}
    {σ α β : Type}
    (place : Nat)
    (first second : Run V σ (List α × β)) :
    Prop :=
  ∃ earlier one other later last,
    earlier.length = place ∧
    first.value = (earlier ++ one :: other :: later, last) ∧
    second.value = (earlier ++ other :: one :: later, last) ∧
    first.state = second.state ∧
    first.exchanges = second.exchanges

namespace Session

variable {V R : Type}
variable [Viewpoint V]
variable [Registrar R]
variable {σ : Type}
variable (host : Host surroundings σ)
variable (level : Log.Level)
variable (state : σ)
variable (s : Session V R)

/- A change of the directory can wait for one request. -/
theorem performAll_exchange_head
    (after : List Request)
    (path : String)
    (request : Request)
    (hBlind : request.Blind) :
    Run.ExchangedAt 0
      ((s.performAll
          (.event (.changedDirectory path) ::
            request :: after)).run host level state)
      ((s.performAll
          (request ::
            .event (.changedDirectory path) :: after)).run
        host level state) := by
  rcases
      perform_changedDirectory host level state s path with
    ⟨hMoved, hState, hExchanges⟩
  have hSeen :=
    run_perform_seenFrom host level state s
      (s.viewFrom path) request hBlind
  have hView :=
    viewFrom_perform host level state s path request hBlind
  rcases hRun : (s.perform request).run host level state with
    ⟨⟨reply, next⟩, later, exchanges, records⟩
  rw [hRun] at hSeen hView
  rcases
      perform_changedDirectory host level later next path with
    ⟨hMovedNext, hStateNext, hExchangesNext⟩
  rw [hView] at hMovedNext
  -- Either way the rest is carried out by the same session.
  let rest :=
    ((next.seenFrom (s.viewFrom path)).performAll after).run
      host level later
  refine
    ⟨[], movedTo path, reply, rest.value.1, rest.value.2, rfl,
      ?_, ?_, ?_, ?_⟩
  · simp [run_performAll_cons, hMoved, hState, hSeen, rest,
      Run.map]
  · simp [run_performAll_cons, hRun, hMovedNext, hStateNext,
      rest]
  · simp [run_performAll_cons, hRun, hMoved, hState, hSeen,
      hMovedNext, hStateNext, Run.map]
  · simp [run_performAll_cons, hRun, hMoved, hState, hSeen,
      hExchanges, hMovedNext, hStateNext, hExchangesNext,
      Run.map]

/-
  A change of the directory can change places with a request
  after it that does not look at the view.
-/
theorem performAll_exchange
    (before after : List Request)
    (path : String)
    (request : Request)
    (hBlind : request.Blind) :
    Run.ExchangedAt before.length
      ((s.performAll
          (before ++ .event (.changedDirectory path) ::
            request :: after)).run host level state)
      ((s.performAll
          (before ++ request ::
            .event (.changedDirectory path) :: after)).run
        host level state) := by
  induction before generalizing s state with
  | nil =>
      exact performAll_exchange_head host level state s after
        path request hBlind
  | cons first before ih =>
      rcases
          ih ((s.perform first).run host level state).state
            ((s.perform first).run
              host level state).value.2 with
        ⟨earlier, one, other, later, last, hLength, hValue,
          hValueBack, hState, hExchanges⟩
      refine
        ⟨((s.perform first).run
            host level state).value.1 :: earlier,
          one, other, later, last, ?_, ?_, ?_, ?_, ?_⟩
      · simp [hLength]
      · simp [run_performAll_cons, hValue]
      · simp [run_performAll_cons, hValueBack]
      · simp [run_performAll_cons, hState]
      · simp [run_performAll_cons, hExchanges]

end Session

end CallDiagnosis

------------------------------------------------------------
-- Requests that are Left Out
------------------------------------------------------------

namespace CallDiagnosis

/-
  What is kept of a list.  A false mark strikes an element
  out; elements without a mark are kept.
-/
def kept
    {α : Type} :
    List Bool → List α → List α
| [], rest => rest
| _ :: _, [] => []
| true :: marks, first :: rest => first :: kept marks rest
| false :: marks, _ :: rest => kept marks rest

namespace Session

variable {V R : Type}
variable [Viewpoint V]
variable [Registrar R]
variable {σ : Type}
variable {host : Host surroundings σ}

/-
  Where every question has one answer, requests that may touch
  nothing can be left out of a row, and the others are replied
  to as before.
-/
theorem performAll_kept
    (hSteady : host.Steady)
    (level : Log.Level)
    (marks : List Bool)
    (requests : List Request)
    (hStruck :
      ∀ request,
        (false, request) ∈ marks.zip requests →
          request.touched = [])
    (state other : σ)
    (s : Session V R) :
    ((s.performAll (kept marks requests)).run
        host level other).value =
      (kept marks
          ((s.performAll requests).run
            host level state).value.1,
        ((s.performAll requests).run
          host level state).value.2) := by
  induction marks generalizing requests s state other with
  | nil =>
      exact Inquiry.value_run_of_steady hSteady _ _ _ _
  | cons mark marks ih =>
      cases requests with
      | nil => rfl
      | cons request rest =>
          have hRest :
              ∀ later,
                (false, later) ∈ marks.zip rest →
                  later.touched = [] := by
            intro later hLater
            exact hStruck later (List.mem_cons_of_mem _ hLater)
          cases mark with
          | true =>
              have hSame :=
                Inquiry.value_run_of_steady hSteady
                  (s.perform request) level other state
              simp only [kept, run_performAll_cons,
                Run.followedBy_value, Run.map_value, hSame]
              rw [ih rest hRest]
          | false =>
              have hKept :=
                value_perform_of_untouched host level state s
                  request
                  (hStruck request List.mem_cons_self)
              simp only [kept, run_performAll_cons,
                Run.followedBy_value, Run.map_value, hKept]
              exact ih rest hRest _ _ s

end Session

end CallDiagnosis

------------------------------------------------------------
-- Requests that Keep to Their Parts
------------------------------------------------------------

namespace CallDiagnosis

namespace Session

section Switches

variable {V R : Type}
variable [Registrar R]

/- Reading the settings moves the engine if it is refused. -/
theorem bid_of_engine_moved
    (s : Session V R)
    (hMoved :
      s.installed.settings.engine ≠ s.settings.engine) :
    ∃ fault, s.bid = [.error fault] := by
  rcases s.installed_cases with
    ⟨-, hSame⟩ | ⟨granted, -, -, hSettings⟩ |
      ⟨fault, hBid, -⟩
  · exact absurd (by rw [hSame]) hMoved
  · exact absurd (by rw [hSettings]) hMoved
  · exact ⟨fault, hBid⟩

end Switches

/-
  A request touches its own parts of a session only, and the
  engine when the settings are read only if the registry
  refuses.  A change of the directory can change places with
  any request that does not look at the view, and where every
  question has one answer, requests that may touch nothing
  can be left out.
-/
theorem requests_keep_to_their_parts
    {V R σ : Type}
    [Viewpoint V]
    [Registrar R]
    (host : Host surroundings σ)
    (level : Log.Level)
    (state : σ)
    (s : Session V R) :
    (∀ request part,
      part ∉ request.touched →
        ((s.perform request).run
          host level state).value.2.Agree s part) ∧
    (((s.perform (.event .settingsRead)).run
          host level state).value.2.settings.engine ≠
        s.settings.engine →
      ∃ fault, s.bid = [.error fault]) ∧
    (∀ before after path request,
      request.Blind →
        Run.ExchangedAt before.length
          ((s.performAll
              (before ++ .event (.changedDirectory path) ::
                request :: after)).run host level state)
          ((s.performAll
              (before ++ request ::
                .event (.changedDirectory path) :: after)).run
            host level state)) ∧
    (host.Steady →
      ∀ marks requests,
        (∀ request,
          (false, request) ∈ marks.zip requests →
            request.touched = []) →
        ∀ other,
          ((s.performAll (kept marks requests)).run
              host level other).value =
            (kept marks
                ((s.performAll requests).run
                  host level state).value.1,
              ((s.performAll requests).run
                host level state).value.2)) := by
  refine ⟨?_, ?_, ?_, ?_⟩
  · intro request part hPart
    exact agree_perform host level state s request part hPart
  · intro hMoved
    rw [perform_next] at hMoved
    exact bid_of_engine_moved s hMoved
  · intro before after path request hBlind
    exact performAll_exchange host level state s before after
      path request hBlind
  · intro hSteady marks requests hStruck other
    exact performAll_kept hSteady level marks requests hStruck
      state other s

/- A new session whose registry takes nobody in. -/
def unwelcome : Session WorkingDirectory Roster :=
  start .standard (WorkingDirectory.ofPath "/")
    (Roster.refusing "closed")

/- A session that was refused still keeps to its parts. -/
theorem unwelcome_keeps_to_its_parts :
    (∃ fault, unwelcome.bid = [.error fault]) ∧
    Agree
      ((unwelcome.perform (.event .restart)).run
        bareSystem.still .off 0).value.2
      unwelcome .verbosity ∧
    Run.ExchangedAt 1
      ((unwelcome.performAll
          [.event .settingsRead,
            .event (.changedDirectory "/srv"),
            .event .restart, .watch .idle]).run
        bareSystem.still .off 0)
      ((unwelcome.performAll
          [.event .settingsRead, .event .restart,
            .event (.changedDirectory "/srv"),
            .watch .idle]).run
        bareSystem.still .off 0) ∧
    ((unwelcome.performAll [.event .restart]).run
        bareSystem.still .off 7).value =
      (kept [false, true]
          ((unwelcome.performAll
              [.event (.unload "other"), .event .restart]).run
            bareSystem.still .off 0).value.1,
        ((unwelcome.performAll
            [.event (.unload "other"), .event .restart]).run
          bareSystem.still .off 0).value.2) := by
  rcases
      requests_keep_to_their_parts bareSystem.still
        .off 0 unwelcome with
    ⟨hFrame, hRefused, hExchange, hLeftOut⟩
  refine ⟨hRefused (by decide), ?_, ?_, ?_⟩
  · exact hFrame (.event .restart) .verbosity (by decide)
  · exact
      hExchange [.event .settingsRead] [.watch .idle] "/srv"
        (.event .restart) trivial
  · exact
      hLeftOut (Scenario.still_steady _) [false, true]
        [.event (.unload "other"), .event .restart]
        (by simp [Request.touched, Event.touched, name]) 7

end Session

end CallDiagnosis
