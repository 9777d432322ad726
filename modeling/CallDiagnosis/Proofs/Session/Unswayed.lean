import CallDiagnosis.Boundary.Command
import CallDiagnosis.Kernel.Basic
import CallDiagnosis.Proofs.Call.Outcome
import CallDiagnosis.Proofs.Inquiry.Noting
import CallDiagnosis.Proofs.Session.Series

/-
  What the level of the log decides in the library.

  Key theorems include:
    * `CallDiagnosis.LimitCache.unswayed_perform`
    * `CallDiagnosis.unswayed_walk`
    * `CallDiagnosis.Explain.unswayed_explainerFor`
    * `CallDiagnosis.Session.unswayed_perform`
    * `CallDiagnosis.Boundary.unswayed_perform`
    * `CallDiagnosis.Kernel.unswayed_live`

  Notes are made all over the library: of limits that are
  captured, of steps that cannot be looked at, of arguments
  and settings that are refused, of events and of what the
  registry says.  No operation does anything else about the
  level of the log.  This is said of each operation, from the
  limits and the walk up to the commands of a host and down
  to what a kernel is asked.
-/

------------------------------------------------------------
-- Limits
------------------------------------------------------------

namespace CallDiagnosis

namespace LimitCache

variable (c : LimitCache)

theorem unswayed_lookup
    (limit : PathLimit)
    (path : String) :
    (c.lookup limit path).Unswayed := by
  apply Inquiry.Unswayed.ite
  · exact .pure _
  · split
    · exact .pure _
    · exact .question _

theorem unswayed_nameMax
    (path : String) :
    (c.nameMax path).Unswayed := by
  exact (c.unswayed_lookup .nameMax path).map _

theorem unswayed_pathMax
    (path : String) :
    (c.pathMax path).Unswayed := by
  exact (c.unswayed_lookup .pathMax path).map _

theorem unswayed_noTruncation
    (path : String) :
    (c.noTruncation path).Unswayed := by
  exact (c.unswayed_lookup .noTrunc path).map _

theorem unswayed_systemLimit
    (limit : SystemLimit) :
    (systemLimit limit).Unswayed := by
  apply Inquiry.Unswayed.bind (.question _)
  intro value
  exact .pure _

/- Each limit that is captured leaves a note of its own. -/
theorem unswayed_captureLimit
    (limit : PathLimit)
    (path : String) :
    (captureLimit limit path).Unswayed := by
  apply Inquiry.Unswayed.bind (.question _)
  intro value
  exact .log_pure _ _ _

/- A second capture leaves a note and does nothing else. -/
theorem unswayed_capture
    (path : String) :
    (c.capture path).Unswayed := by
  apply Inquiry.Unswayed.ite
  · exact .pure _
  · apply Inquiry.Unswayed.ite
    · exact .log_pure _ _ _
    · apply (unswayed_captureLimit .nameMax path).bind
      intro nameMax
      apply (unswayed_captureLimit .noTrunc path).bind
      intro noTrunc
      exact (unswayed_captureLimit .pathMax path).map _

/- Whatever is asked of the limits of a session. -/
theorem unswayed_perform
    (request : LimitRequest) :
    (c.perform request).Unswayed := by
  cases request with
  | nameMax path =>
      exact (c.unswayed_nameMax path).map _
  | pathMax path =>
      exact (c.unswayed_pathMax path).map _
  | noTruncation path =>
      exact (c.unswayed_noTruncation path).map _
  | systemLimit limit =>
      exact (unswayed_systemLimit limit).map _
  | capture path =>
      exact (c.unswayed_capture path).map _
  | reset => exact .pure _

end LimitCache

end CallDiagnosis

------------------------------------------------------------
-- Walks
------------------------------------------------------------

namespace CallDiagnosis

namespace Walk

variable (e : Errno)
variable (intent : Intent)
variable (expected : ExpectedKind)

/- A second look at a directory that fails leaves a note. -/
theorem unswayed_leafRefused
    (step : Path.Step)
    (status : FileStatus) :
    (leafRefused step status intent expected).Unswayed := by
  apply Inquiry.Unswayed.ite
  · exact .pure _
  · apply Inquiry.Unswayed.bind (.question _)
    intro answer
    cases answer with
    | ok container => exact .pure _
    | error reason =>
        exact .log_pure _ _ _

theorem unswayed_leafSuccess
    (step : Path.Step)
    (status : FileStatus) :
    (leafSuccess e step status intent expected).Unswayed := by
  apply Inquiry.Unswayed.ite
  · exact (unswayed_leafRefused intent expected step
      status).map _
  · exact .pure _

/-
  Step after step, the walk leaves a note of a look that
  failed, and goes on or stops without regard to it.
-/
theorem unswayed_inspect
    (signals : SignalCheck)
    (limit : Option UInt64)
    (steps : List Path.Step) :
    (inspect signals limit e intent expected
      steps).Unswayed := by
  induction steps with
  | nil => exact .pure _
  | cons step rest ih =>
      unfold inspect
      apply Inquiry.Unswayed.bind (.question _)
      intro serviced
      split
      · exact .pure _
      · apply Inquiry.Unswayed.bind (.question _)
        intro answer
        cases answer with
        | error reason =>
            apply Inquiry.Unswayed.bind (.log _ _)
            intro noted
            exact .ite (.pure _) (.pure _)
        | ok status =>
            apply Inquiry.Unswayed.ite
            · exact
                unswayed_leafSuccess e intent expected step
                  status
            · exact .ite ih (.pure _)

variable (c : Context)
variable (path : String)

theorem unswayed_wholePath :
    (wholePath c e path).Unswayed := by
  apply Inquiry.Unswayed.ite
  · apply (c.limits.unswayed_pathMax path).bind
    intro answer
    cases answer with
    | error fault => exact .pure _
    | ok limit => exact .ite (.pure _) (.pure _)
  · exact .pure _

theorem unswayed_nameLimit :
    (nameLimit c e path).Unswayed := by
  apply Inquiry.Unswayed.ite
  · apply (c.limits.unswayed_nameMax path).bind
    intro limit
    apply (c.limits.unswayed_noTruncation path).bind
    intro refused
    split
    · exact .pure _
    · exact .pure _
  · exact .pure _

theorem unswayed_descend :
    (descend c e path intent expected).Unswayed := by
  apply Inquiry.Unswayed.bind (.log _ _)
  intro noted
  apply (unswayed_nameLimit e c path).bind
  intro limit
  exact unswayed_inspect e intent expected c.signals limit _

end Walk

/- A walk as a whole. -/
theorem unswayed_walk
    (c : Context)
    (e : Errno)
    (path : String)
    (intent : Intent)
    (expected : ExpectedKind) :
    (walk c e path intent expected).Unswayed := by
  apply Inquiry.Unswayed.ite
  · exact .pure _
  · apply (Walk.unswayed_wholePath e c path).bind
    intro verdict
    cases verdict with
    | some diagnosis => exact .pure _
    | none =>
        exact (Walk.unswayed_descend e intent expected c
          path).map _

end CallDiagnosis

------------------------------------------------------------
-- Explanations
------------------------------------------------------------

namespace CallDiagnosis

namespace Explain

variable (c : Context)
variable (e : Errno)

theorem unswayed_walkOrDescribe
    (call : SystemCall)
    (path : String)
    (intent : Intent)
    (expected : ExpectedKind) :
    (walkOrDescribe c e call path intent
      expected).Unswayed := by
  apply Inquiry.Unswayed.ite
  · apply (unswayed_walk c e path intent expected).bind
    intro found
    split
    · exact .pure _
    · exact .pure _
    · exact .pure _
  · exact .pure _

theorem unswayed_withPath
    (call : SystemCall)
    (path arguments : String)
    (find : Consult Finding)
    (hFind : find.Unswayed) :
    (withPath call path arguments find).Unswayed := by
  apply Inquiry.Unswayed.ite
  · exact .pure _
  · exact hFind.map _

/- The arguments of another call leave a note. -/
theorem unswayed_refuse
    (call : Call) :
    (refuse call).Unswayed := by
  exact .log_pure _ _ _

theorem unswayed_chrootFinding
    (path : String) :
    (chrootFinding c e path).Unswayed := by
  apply Inquiry.Unswayed.ite
  · exact .pure _
  · exact unswayed_walkOrDescribe c e _ path _ _

/- What is blamed for a refusal, or else found on the walk. -/
theorem unswayed_refusedOr
    {condition : Prop}
    [Decidable condition]
    {refused : Consult (Option Diagnosis)}
    {find : Consult Finding}
    (hRefused : refused.Unswayed)
    (hFind : find.Unswayed) :
    Inquiry.Unswayed (do
      let blame ← if condition then refused else pure none
      match blame with
      | some diagnosis => return .ok (some diagnosis)
      | none => find) := by
  have hRest :
      ∀ blame : Option Diagnosis,
        Inquiry.Unswayed
          (match blame with
          | some diagnosis => return .ok (some diagnosis)
          | none => find) := by
    intro blame
    cases blame with
    | some diagnosis => exact .pure _
    | none => exact hFind
  apply Inquiry.Unswayed.ite
  · exact hRefused.bind hRest
  · exact .bind (.pure _) hRest

theorem unswayed_openRefused
    (path : String) :
    (openRefused c e path).Unswayed := by
  apply Inquiry.Unswayed.ite
  · apply Inquiry.Unswayed.bind (.question _)
    intro answer
    cases answer with
    | error reason => exact .pure _
    | ok status => exact .ite (.pure _) (.pure _)
  · exact .ite (.pure _) (.pure _)

theorem unswayed_openFinding
    (path : String)
    (intent : Intent) :
    (openFinding c e path intent).Unswayed := by
  apply unswayed_refusedOr
  · exact unswayed_openRefused c e path
  · exact unswayed_walkOrDescribe c e _ path _ _

theorem unswayed_unlinkRefused
    (path : String) :
    (unlinkRefused c path).Unswayed := by
  apply Inquiry.Unswayed.bind (.question _)
  intro answer
  cases answer with
  | error reason => exact .pure _
  | ok leaf =>
      apply Inquiry.Unswayed.ite
      · exact .pure _
      · apply Inquiry.Unswayed.bind (.question _)
        intro container
        cases container with
        | error reason => exact .pure _
        | ok directory =>
            apply Inquiry.Unswayed.bind (.question _)
            intro uid
            exact .ite (.pure _) (.pure _)

theorem unswayed_unlinkFinding
    (path : String) :
    (unlinkFinding c e path).Unswayed := by
  apply unswayed_refusedOr
  · exact unswayed_unlinkRefused c path
  · exact unswayed_walkOrDescribe c e _ path _ _

/- An explainer, given the arguments of any call. -/
theorem unswayed_explainerFor
    (explained : SystemCall)
    (call : Call) :
    (explainerFor explained c e call).Unswayed := by
  cases explained with
  | chroot =>
      simp only [explainerFor, chroot]
      split
      · exact
          unswayed_withPath _ _ _ _
            (unswayed_chrootFinding c e _)
      · exact unswayed_refuse _
  | lstat =>
      simp only [explainerFor, lstat]
      split
      · exact
          unswayed_withPath _ _ _ _
            (unswayed_walkOrDescribe c e _ _ _ _)
      · exact unswayed_refuse _
  | openFile =>
      simp only [explainerFor, openFile]
      split
      · exact
          unswayed_withPath _ _ _ _
            (unswayed_openFinding c e _ _)
      · exact unswayed_refuse _
  | stat =>
      simp only [explainerFor, stat]
      split
      · exact
          unswayed_withPath _ _ _ _
            (unswayed_walkOrDescribe c e _ _ _ _)
      · exact unswayed_refuse _
  | unlink =>
      simp only [explainerFor, unlink]
      split
      · exact
          unswayed_withPath _ _ _ _
            (unswayed_unlinkFinding c e _)
      · exact unswayed_refuse _
  | _ => exact .pure _

end Explain

/- The standard table explains a call by its explainer. -/
theorem CallTable.unswayed_explain
    (c : Context)
    (e : Errno)
    (call : Call) :
    (standard.explain c e call).Unswayed := by
  rw [explain, get_standard]
  exact Explain.unswayed_explainerFor c e call.systemCall call

end CallDiagnosis

------------------------------------------------------------
-- Settings
------------------------------------------------------------

namespace CallDiagnosis

namespace Settings

variable {V : Vocabulary}

/- A directive that is accepted leaves a note. -/
theorem unswayed_directive
    (s : Settings)
    (name : String)
    (arguments : List String) :
    (s.directive name arguments : Inquiry V _).Unswayed := by
  unfold directive
  cases s.change? name arguments with
  | error fault => exact .pure _
  | ok after =>
      exact .log_pure _ _ _

/- A number that is not a verbosity leaves a note. -/
theorem unswayed_ofHost
    (flags : UInt32)
    (verbosity : Int32) :
    (ofHost flags verbosity : Inquiry V _).Unswayed := by
  simp only [ofHost]
  split
  · exact .pure _
  · exact .log_pure _ _ _

end Settings

end CallDiagnosis

------------------------------------------------------------
-- Sessions
------------------------------------------------------------

namespace CallDiagnosis

namespace Session

variable {V R : Type}
variable (s : Session V R)

section Explanations

variable [Viewpoint V]

theorem unswayed_explain
    (e : Errno)
    (call : Call) :
    (s.explain e call).Unswayed := by
  apply Inquiry.Unswayed.ite
  · exact CallTable.unswayed_explain s.context e call
  · exact .pure _

theorem unswayed_describe
    (e : Errno)
    (call : Call) :
    (s.describe e call).Unswayed := by
  exact (s.unswayed_explain e call).map _

end Explanations

section Installation

variable [Registrar R]

/- A registry that refuses the session leaves a note. -/
theorem unswayed_install :
    s.install.Unswayed := by
  apply Inquiry.Unswayed.ite
  · exact .pure _
  · cases Registrar.register s.registry .session name with
    | mk result registry =>
        cases result with
        | ok granted => exact .pure _
        | error fault =>
            exact .log_pure _ _ _

/- So does a registry that does not know the session. -/
theorem unswayed_uninstall :
    s.uninstall.Unswayed := by
  apply Inquiry.Unswayed.ite
  · cases Registrar.unregister s.registry name with
    | mk result registry =>
        cases result with
        | ok given => exact .pure _
        | error fault =>
            exact .log_pure _ _ _
  · exact .pure _

theorem unswayed_close :
    s.close.Unswayed := by
  exact s.unswayed_uninstall.map _

end Installation

/- The first capture leaves one note more. -/
theorem unswayed_beforeRootChange
    (path : String) :
    (s.beforeRootChange path).Unswayed := by
  apply (s.limits.unswayed_capture path).bind
  rintro ⟨taken, limits⟩
  cases taken with
  | error fault => exact .pure _
  | ok fresh =>
      cases fresh with
      | false => exact .pure _
      | true =>
          exact .log_pure _ _ _

theorem unswayed_directive
    (word : String)
    (arguments : List String) :
    (s.directive word arguments).Unswayed := by
  apply (s.settings.unswayed_directive word arguments).bind
  intro result
  cases result with
  | error fault => exact .pure _
  | ok settings => exact .pure _

variable [Viewpoint V]
variable [Registrar R]

theorem unswayed_react
    (event : Event) :
    (s.react event).Unswayed := by
  cases event with
  | settingsRead =>
      exact s.unswayed_install.map _
  | changesRoot path => exact s.unswayed_beforeRootChange path
  | changedDirectory path => exact .pure _
  | restart =>
      exact s.unswayed_uninstall.map _
  | shutdown => exact .pure _
  | unload unloaded =>
      apply Inquiry.Unswayed.ite
      · exact s.forgetLimits.unswayed_uninstall.map _
      · exact .pure _

/- Every event leaves a note before anything is done about it. -/
theorem unswayed_handle
    (event : Event) :
    (s.handle event).Unswayed := by
  apply Inquiry.Unswayed.bind (.log _ _)
  intro noted
  exact s.unswayed_react event

/- Whatever is asked of a session. -/
theorem unswayed_perform
    (request : Request) :
    (s.perform request).Unswayed := by
  cases request with
  | event event =>
      exact (s.unswayed_handle event).map _
  | directive name arguments =>
      exact (s.unswayed_directive name arguments).map _
  | explain e call =>
      exact (s.unswayed_explain e call).map _
  | describe e call =>
      exact (s.unswayed_describe e call).map _
  | walk e path intent expected =>
      exact
        (unswayed_walk s.context e path intent expected).map _
  | limit request =>
      exact (s.limits.unswayed_perform request).map _
  | watch signals => exact .pure _
  | guestRegister name => exact .pure _
  | guestUnregister name => exact .pure _

/- And whatever is asked of it in a row. -/
theorem unswayed_performAll
    (requests : List Request) :
    (s.performAll requests).Unswayed := by
  induction requests generalizing s with
  | nil => exact .pure _
  | cons request rest ih =>
      apply (s.unswayed_perform request).bind
      rintro ⟨reply, after⟩
      exact (ih after).map _

end Session

end CallDiagnosis

------------------------------------------------------------
-- Hosts
------------------------------------------------------------

namespace CallDiagnosis

namespace Boundary

/- A record that is too small leaves a note and is not read. -/
theorem unswayed_readSettings
    (raw : Option RawSettings) :
    (readSettings raw).Unswayed := by
  cases raw with
  | none => exact .pure _
  | some numbers =>
      apply Inquiry.Unswayed.ite
      · exact .log_pure _ _ _
      · exact
          (Settings.unswayed_ofHost numbers.flags
            numbers.verbosity).map _

/- So does a session whose first event fails. -/
theorem unswayed_create
    (directory : WorkingDirectory)
    (raw : Option RawSettings) :
    (create directory raw).Unswayed := by
  apply (unswayed_readSettings raw).bind
  intro settings
  cases settings with
  | none => exact .pure _
  | some read =>
      apply
        ((Session.start read directory
          Roster.empty).unswayed_handle .settingsRead).bind
      rintro ⟨result, ready⟩
      cases result with
      | ok done => exact .pure _
      | error fault =>
          exact .log_pure _ _ _

theorem unswayed_destroy
    (handle : Handle) :
    (destroy handle).Unswayed := by
  cases handle with
  | none => exact .pure _
  | some s =>
      exact s.unswayed_close.map _

theorem unswayed_handleEvent
    (s : HostSession)
    (event : Event) :
    (handleEvent s event).Unswayed := by
  exact (s.unswayed_handle event).map _

theorem unswayed_pathEvent
    (handle : Handle)
    (path : TextView)
    (event : String → Event) :
    (pathEvent handle path event).Unswayed := by
  unfold pathEvent
  split
  · exact (unswayed_handleEvent _ _).map _
  · exact .pure _

theorem unswayed_restart
    (handle : Handle) :
    (restart handle).Unswayed := by
  cases handle with
  | none => exact .pure _
  | some s =>
      apply (unswayed_handleEvent s .restart).bind
      rintro ⟨status, released⟩
      apply Inquiry.Unswayed.ite
      · exact
          (unswayed_handleEvent released .settingsRead).map _
      · exact .pure _

section Answers

variable (memory : Memory)
variable (handle : Handle)
variable (e : Errno)
variable (out : Option Slot)

theorem unswayed_answerPath
    (path : TextView)
    (intent : UInt32)
    (expected : Int32) :
    (answerPath memory handle e path intent expected
      out).Unswayed := by
  unfold answerPath
  split
  · apply Inquiry.Unswayed.ite
    · exact (unswayed_walk _ e _ _ _).map _
    · exact .pure _
  · exact .pure _

theorem unswayed_answerReadCall
    (call : Call) :
    (answerReadCall memory handle e call out).Unswayed := by
  cases handle with
  | none => exact .pure _
  | some s =>
      apply Inquiry.Unswayed.ite
      · exact .pure _
      · exact (s.unswayed_describe e call).map _

theorem unswayed_answerCall
    (path : TextView)
    (call : String → Call) :
    (answerCall memory handle e path call out).Unswayed := by
  unfold answerCall
  cases path.read? with
  | none => exact .pure _
  | some p =>
      exact unswayed_answerReadCall memory handle e out _

theorem unswayed_answer
    (topic : Topic) :
    (answer memory handle e out topic).Unswayed := by
  cases topic with
  | general call => exact .pure _
  | path path intent expected =>
      exact
        unswayed_answerPath memory handle e out path intent
          expected
  | _ =>
      exact unswayed_answerCall memory handle e out _ _

end Answers

/- Whatever a host commands. -/
theorem unswayed_perform
    (directory : WorkingDirectory)
    (memory : Memory)
    (handle : Handle)
    (command : Command) :
    (perform directory memory handle command).Unswayed := by
  cases command with
  | create raw =>
      apply (unswayed_destroy handle).bind
      intro destroyed
      exact (unswayed_create directory raw).map _
  | destroy =>
      exact (unswayed_destroy handle).map _
  | changesRoot path =>
      exact (unswayed_pathEvent handle path .changesRoot).map _
  | changedDirectory path =>
      exact
        (unswayed_pathEvent handle path
          .changedDirectory).map _
  | restart =>
      exact (unswayed_restart handle).map _
  | watch label => exact .pure _
  | explain e topic out =>
      exact (unswayed_answer memory handle e out topic).map _

end Boundary

end CallDiagnosis

------------------------------------------------------------
-- Kernels
------------------------------------------------------------

namespace CallDiagnosis

namespace Kernel

/- Every place that has no answer leaves a note. -/
theorem unswayed_search
    (limit : PathLimit)
    (places : List String) :
    (search limit places).Unswayed := by
  induction places with
  | nil => exact .pure _
  | cons place rest ih =>
      apply Inquiry.Unswayed.ask
      intro answer
      cases answer with
      | ok value => exact .pure _
      | error e =>
          apply Inquiry.Unswayed.ite
          · exact .log_pure _ _ _
          · apply Inquiry.Unswayed.bind (.log _ _)
            intro noted
            exact .ite ih (.pure _)

/- Whatever a kernel is asked in place of one question. -/
theorem unswayed_restate
    (question : CallDiagnosis.Question) :
    (restate question).Unswayed := by
  cases question with
  | probe path =>
      apply Inquiry.Unswayed.ite
      · apply Inquiry.Unswayed.ask
        intro answer
        exact .done _
      · exact .pure _
  | effectiveUid => exact .question _
  | pathLimit limit path =>
      apply Inquiry.Unswayed.ite
      · exact unswayed_search limit _
      · exact .pure _
  | systemLimit limit =>
      apply Inquiry.Unswayed.ask
      intro value
      exact .ite (.pure _) (.pure _)
  | signal check => exact .question _

/- Or in place of all questions of an inquiry. -/
theorem unswayed_live
    {α : Type}
    {x : Consult α}
    (hUnswayed : x.Unswayed) :
    (live x).Unswayed :=
  hUnswayed.rephrase restate unswayed_restate

end Kernel

end CallDiagnosis
