import CallDiagnosis.Proofs.Boundary.Slot
import CallDiagnosis.Proofs.Session.Enabled
import CallDiagnosis.Proofs.Session.Series

/-
  What the commands of a host ask of its session.

  Key definitions include:
    * `CallDiagnosis.Boundary.Topic.call?`
    * `CallDiagnosis.Boundary.Topic.walk?`
    * `CallDiagnosis.Boundary.Command.requests`

  Key theorems include:
    * `CallDiagnosis.Boundary.run_perform`
    * `CallDiagnosis.Boundary.disabled_answer_iff`

  A command that leaves a host its session comes down to
  requests that anybody could make of that session: none, one,
  or the two of a restart.  The session after the command, and
  all that was asked and noted meanwhile, is what the requests
  lead to.
-/

------------------------------------------------------------
-- What Commands Come Down to
------------------------------------------------------------

namespace CallDiagnosis

namespace Boundary

namespace Topic

/- The call that a topic is about, if its path can be read. -/
def call? :
    Topic → Option Call
| .openFile lent flags mode =>
    lent.read?.map (.openFile · flags mode)
| .chroot lent => lent.read?.map .chroot
| .lstat lent => lent.read?.map .lstat
| .stat lent => lent.read?.map .stat
| .unlink lent => lent.read?.map .unlink
| .general _ => none
| .path _ _ _ => none

/-
  The path, the intent and the kind that a topic about a path
  is about, if they can be read.
-/
def walk? :
    Topic → Option (String × Intent × ExpectedKind)
| .path lent intent expected => do
    let path ← lent.read?
    let wishes ← Intent.ofBits? intent
    let kind ← expectedOfNumber? expected.toInt
    return (path, wishes, kind)
| _ => none

end Topic

namespace Command

/- A command that neither makes a session nor ends one. -/
def Keeps :
    Command → Prop
| .create _ => False
| .destroy => False
| _ => True

/- What a command asks of the session in the host's hands. -/
def requests
    (s : HostSession) :
    Command → List Request
| .changesRoot lent =>
    (lent.read?.map (.event <| .changesRoot ·)).toList
| .changedDirectory lent =>
    (lent.read?.map (.event <| .changedDirectory ·)).toList
| .restart => [.event .restart, .event .settingsRead]
| .watch label => [.watch (label.elim .idle .ofHost)]
| .explain e topic _ =>
    match topic.call?, topic.walk? with
    | some call, _ =>
        if e = .success then [] else [.describe e call]
    | none, some (path, intent, expected) =>
        if s.Enabled then
          [.walk e path intent expected]
        else
          []
    | none, none => []
| .create _ => []
| .destroy => []

end Command

section Answers

variable (memory : Memory)
variable (handle : Handle)
variable (s : HostSession)
variable (e : Errno)
variable (topic : Topic)
variable (out : Option Slot)

/- The call of a topic is made from the path that was lent. -/
theorem answer_of_lent
    (lent : TextView)
    (hTopic : topic.callPath? = some lent) :
    ∃ call : String → Call,
      topic.call? = lent.read?.map call ∧
      answer memory handle e out topic =
        answerCall memory handle e lent call out := by
  cases topic with
  | general name => cases hTopic
  | path lent intent expected => cases hTopic
  | openFile lent flags mode =>
      cases hTopic
      exact ⟨_, rfl, rfl⟩
  | chroot lent =>
      cases hTopic
      exact ⟨_, rfl, rfl⟩
  | lstat lent =>
      cases hTopic
      exact ⟨_, rfl, rfl⟩
  | stat lent =>
      cases hTopic
      exact ⟨_, rfl, rfl⟩
  | unlink lent =>
      cases hTopic
      exact ⟨_, rfl, rfl⟩

/- Where no path is lent for a call there is none. -/
theorem call?_of_callPath_none
    (hTopic : topic.callPath? = none) :
    topic.call? = none := by
  cases topic with
  | general name => rfl
  | path lent intent expected => rfl
  | _ => cases hTopic

/- All calls are answered alike, once the path is read. -/
theorem answer_of_call?
    (call : Call)
    (hCall : topic.call? = some call) :
    answer memory handle e out topic =
      answerReadCall memory handle e call out := by
  cases hTopic : topic.callPath? with
  | none =>
      rw [call?_of_callPath_none topic hTopic] at hCall
      cases hCall
  | some lent =>
      rcases
          answer_of_lent memory handle e topic out lent
            hTopic with
        ⟨toCall, hOrigin, hAnswer⟩
      rw [hOrigin] at hCall
      rcases Option.map_eq_some_iff.mp hCall with
        ⟨path, hRead, rfl⟩
      rw [hAnswer]
      simp only [answerCall, hRead]

/- A path is answered by a walk, if the session is enabled. -/
theorem answer_of_walk?
    (path : String)
    (intent : Intent)
    (expected : ExpectedKind)
    (hWalk : topic.walk? = some (path, intent, expected)) :
    answer memory (some s) e out topic =
      if s.Enabled then do
        let found ← walk s.context e path intent expected
        return deliver memory .noExplanation (clear out)
          (found.map (·.map Diagnosis.text))
      else
        return (.disabled, clear out) := by
  cases topic with
  | path lent bits number =>
      rcases Option.bind_eq_some_iff.mp hWalk with
        ⟨read, hRead, hRest⟩
      rcases Option.bind_eq_some_iff.mp hRest with
        ⟨wishes, hWishes, hLast⟩
      rcases Option.bind_eq_some_iff.mp hLast with
        ⟨kind, hKind, hFound⟩
      cases hFound
      simp only [answer, answerPath, hRead, hWishes, hKind]
  | _ => cases hWalk

/- Whatever cannot be read is answered without a question. -/
theorem answer_of_unread
    (hCall : topic.call? = none)
    (hWalk : topic.walk? = none) :
    ∃ answered,
      answer memory handle e out topic = pure answered := by
  cases hTopic : topic.callPath? with
  | some lent =>
      rcases
          answer_of_lent memory handle e topic out lent
            hTopic with
        ⟨toCall, hOrigin, hAnswer⟩
      rw [hOrigin] at hCall
      have hRead := Option.map_eq_none_iff.mp hCall
      refine ⟨(.invalidArgument, out), ?_⟩
      rw [hAnswer]
      simp only [answerCall, hRead]
  | none =>
      cases topic with
      | general name => exact ⟨_, rfl⟩
      | path lent bits number =>
          change
            ∃ answered,
              answerPath memory handle e lent bits number out =
                pure answered
          unfold answerPath
          split
          · rename_i hWishes hKind hRead
            simp [Topic.walk?, hRead, hWishes, hKind] at hWalk
          · exact ⟨_, rfl⟩
      | _ => cases hTopic

end Answers

section Runs

variable {σ : Type}
variable (host : Host surroundings σ)
variable (level : Log.Level)
variable (state : σ)
variable (directory : WorkingDirectory)
variable (memory : Memory)
variable (s : HostSession)

/- An event about a path is a request, once the path is read. -/
theorem run_pathEvent
    (lent : TextView)
    (event : String → Event) :
    ((pathEvent (some s) lent event).run
        host level state).map Prod.snd =
      ((s.performAll
          (lent.read?.map (.event <| event ·)).toList).run
        host level state).map (fun done => some done.2) := by
  cases hRead : lent.read? with
  | none => simp [pathEvent, hRead, Run.map]
  | some path =>
      simp [pathEvent, handleEvent, hRead, Session.perform,
        Run.map, Run.followedBy]

/- An explanation asks what its one request asks, if any. -/
theorem run_explain
    (e : Errno)
    (topic : Topic)
    (out : Option Slot) :
    ((perform directory memory (some s)
          (.explain e topic out)).run
        host level state).map Prod.snd =
      ((s.performAll
          (Command.requests s (.explain e topic out))).run
        host level state).map (fun done => some done.2) := by
  cases hCall : topic.call? with
  | some call =>
      have hAnswer :=
        answer_of_call? memory (some s) e topic out call hCall
      by_cases hSuccess : e = .success
      · subst hSuccess
        simp [perform, Command.requests, hCall, hAnswer,
          answerReadCall, Run.map, Run.followedBy]
      · simp [perform, Command.requests, hCall, hSuccess,
          hAnswer, answerReadCall, Session.perform, Run.map,
          Run.followedBy]
  | none =>
      cases hWalk : topic.walk? with
      | none =>
          rcases
              answer_of_unread memory (some s) e topic out hCall
                hWalk with
            ⟨answered, hAnswered⟩
          simp [perform, Command.requests, hCall, hWalk,
            hAnswered, Run.map, Run.followedBy]
      | some asked =>
          rcases asked with ⟨path, intent, expected⟩
          have hAnswer :=
            answer_of_walk? memory s e topic out path intent
              expected hWalk
          by_cases hOn : s.Enabled
          · simp [perform, Command.requests, hCall, hWalk,
              hOn, hAnswer, Session.perform, Run.map,
              Run.followedBy]
          · simp [perform, Command.requests, hCall, hWalk,
              hOn, hAnswer, Run.map, Run.followedBy]

/-
  A command that keeps a session asks, notes and leaves behind
  what its requests do.
-/
theorem run_perform
    (command : Command)
    (hKeeps : command.Keeps) :
    ((perform directory memory (some s) command).run
        host level state).map Prod.snd =
      ((s.performAll (command.requests s)).run
        host level state).map (fun done => some done.2) := by
  cases command with
  | create raw => cases hKeeps
  | destroy => cases hKeeps
  | changesRoot lent =>
      rw [Command.requests, ← run_pathEvent]
      simp [perform, changesRoot, Run.map, Run.followedBy]
  | changedDirectory lent =>
      rw [Command.requests, ← run_pathEvent]
      simp [perform, changedDirectory, Run.map,
        Run.followedBy]
  | restart =>
      -- Nothing can go wrong in the first half of a restart,
      -- so the second half always follows.
      simp [perform, restart, handleEvent, Session.handle,
        Session.react, statusOf, Command.requests,
        Session.performAll, Session.perform, Run.map,
        Run.followedBy]
  | watch label =>
      cases label with
      | none =>
          simp [perform, watch, Command.requests,
            Session.perform, Run.map]
      | some l =>
          simp [perform, watch, Command.requests,
            Session.perform, Run.map]
  | explain e topic out =>
      exact
        run_explain host level state directory memory s e
          topic out

end Runs

end Boundary

end CallDiagnosis

------------------------------------------------------------
-- Answers and the Switches
------------------------------------------------------------

namespace CallDiagnosis

/- Only a session that is disabled is reported as disabled. -/
theorem Fault.status_eq_disabled_iff
    (fault : Fault) :
    fault.status = .disabled ↔ fault = .disabled := by
  cases fault <;> simp [status]

/- A walk can find fault with its path, and with nothing else. -/
theorem Explain.value_walk_of_error
    {σ : Type}
    (host : Host surroundings σ)
    (level : Log.Level)
    (state : σ)
    (c : Context)
    (e : Errno)
    (path : String)
    (intent : Intent)
    (expected : ExpectedKind)
    (fault : Fault)
    (hFailed :
      ((walk c e path intent expected).run
        host level state).value = .error fault) :
    path = "" ∧ fault = .invalidArgument .path := by
  by_cases hPath : path = ""
  · simp only [walk, hPath, if_true, Inquiry.run_pure,
      Except.error.injEq] at hFailed
    exact ⟨hPath, hFailed.symm⟩
  · rcases
        exists_value_walk host level state c e path intent
          expected hPath with
      ⟨found, hFound⟩
    rw [hFound] at hFailed
    cases hFailed

namespace Boundary

/- An error about a topic that takes a session to explain. -/
def Topic.Asks
    (topic : Topic)
    (e : Errno) :
    Prop :=
  e ≠ .success ∧ topic.call? ≠ none ∨ topic.walk? ≠ none

/- A text that is written is no sign of a disabled session. -/
theorem status_write_ne_disabled
    (memory : Memory)
    (text : String)
    (out : Option Slot) :
    (write memory text out).1 ≠ .disabled := by
  cases out with
  | none => simp [write]
  | some slot =>
      by_cases hRoom : memory.Holds text
      · simp [write, hRoom]
      · simp [write, hRoom]

/- A delivery adds no disabled session of its own. -/
theorem disabled_deliver_iff
    (memory : Memory)
    (silence : Status)
    (hSilence : silence ≠ .disabled)
    (out : Option Slot)
    (found : Except Fault (Option String)) :
    (deliver memory silence out found).1 = .disabled ↔
      found = .error .disabled := by
  cases found with
  | error fault =>
      simp [deliver, Fault.status_eq_disabled_iff]
  | ok answer =>
      cases answer with
      | none => simp [deliver, hSilence]
      | some text =>
          simp [deliver,
            status_write_ne_disabled memory text out]

section Answers

variable {σ : Type}
variable (host : Host surroundings σ)
variable (level : Log.Level)
variable (state : σ)
variable (memory : Memory)
variable (s : HostSession)
variable (e : Errno)
variable (topic : Topic)
variable (out : Option Slot)

theorem disabled_answer_of_call?
    (call : Call)
    (hFailed : e ≠ .success)
    (hCall : topic.call? = some call) :
    ((answer memory (some s) e out topic).run
        host level state).value.1 = .disabled ↔
      ¬ s.Enabled := by
  rw [answer_of_call? _ _ _ _ _ _ hCall,
    ← s.describe_eq_disabled_iff host level state e call]
  simp only [answerReadCall, if_neg hFailed,
    Inquiry.run_bind, Inquiry.run_pure, Run.followedBy_value,
    disabled_deliver_iff memory .notAnError (by decide)]
  cases ((s.describe e call).run host level state).value with
  | error fault => simp [Except.map]
  | ok text => simp [Except.map]

theorem disabled_answer_of_walk?
    (path : String)
    (intent : Intent)
    (expected : ExpectedKind)
    (hWalk : topic.walk? = some (path, intent, expected)) :
    ((answer memory (some s) e out topic).run
        host level state).value.1 = .disabled ↔
      ¬ s.Enabled := by
  rw [answer_of_walk? _ _ _ _ _ _ _ _ hWalk]
  by_cases hOn : s.Enabled
  · rw [if_pos hOn, Inquiry.run_bind, Run.followedBy_value,
      Inquiry.run_pure,
      disabled_deliver_iff memory .noExplanation (by decide)]
    cases hFound :
        ((walk s.context e path intent expected).run
          host level state).value with
    | ok found => simp [Except.map, hOn]
    | error fault =>
        have hFault :=
          (Explain.value_walk_of_error host level state
            s.context e path intent expected fault hFound).2
        simp [hFault, Except.map, hOn]
  · simp [hOn]

/- The switches of the session decide what is disabled. -/
theorem disabled_answer_iff
    (hAsks : topic.Asks e) :
    ((answer memory (some s) e out topic).run
        host level state).value.1 = .disabled ↔
      ¬ s.Enabled := by
  rcases hAsks with ⟨hFailed, hCall⟩ | hWalk
  · rcases Option.ne_none_iff_exists'.mp hCall with
      ⟨call, hRead⟩
    exact
      disabled_answer_of_call? host level state memory s e
        topic out call hFailed hRead
  · rcases Option.ne_none_iff_exists'.mp hWalk with
      ⟨⟨path, intent, expected⟩, hRead⟩
    exact
      disabled_answer_of_walk? host level state memory s e
        topic out path intent expected hRead

end Answers

end Boundary

end CallDiagnosis
