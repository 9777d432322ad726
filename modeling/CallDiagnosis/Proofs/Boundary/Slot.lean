import CallDiagnosis.Boundary.Command
import CallDiagnosis.Proofs.Inquiry.Sequencing
import CallDiagnosis.Scenario

/-
  What answers leave in the slot of a host.

  Key definitions include:
    * `CallDiagnosis.Boundary.Settled`
    * `CallDiagnosis.Boundary.Topic.Unread`

  Key theorems include:
    * `CallDiagnosis.Boundary.settled_deliver`
    * `CallDiagnosis.Boundary.answer_settled_iff`

  A host frees what it finds in its slot, so after an answer
  the slot should hold a new text or nothing at all.  This is
  kept on every way through an answer but one, even if there
  is no memory for the text: the path of a call is read before
  the slot is cleared, and if it cannot be read the slot still
  holds what the host left in it.
-/

------------------------------------------------------------
-- Settled Slots
------------------------------------------------------------

namespace CallDiagnosis

/- No fault passes for success. -/
theorem Fault.status_ne_ok
    (fault : Fault) :
    fault.status ≠ .ok := by
  cases fault <;> simp [status]

namespace Boundary

/-
  An answer that leaves a slot settled: a new text for a
  success, and nothing otherwise.
-/
inductive Settled :
    Status × Option Slot → Prop where
| told
    (text : String) :
    Settled (.ok, some (.fresh text))
| untold
    (status : Status)
    (hStatus : status ≠ .ok) :
    Settled (status, some .cleared)

/- A slot with an earlier text in it is not settled. -/
theorem not_settled_stale
    (status : Status)
    (previous : String) :
    ¬ Settled (status, some (.stale previous)) := by
  intro hSettled
  cases hSettled

/- A delivery into a cleared slot leaves it settled. -/
theorem settled_deliver
    (memory : Memory)
    (silence : Status)
    (hSilence : silence ≠ .ok)
    (found : Except Fault (Option String)) :
    Settled
      (deliver memory silence (some .cleared) found) := by
  cases found with
  | error fault =>
      exact .untold fault.status fault.status_ne_ok
  | ok answer =>
      cases answer with
      | none => exact .untold silence hSilence
      | some text =>
          -- Without memory the slot is still as it was cleared.
          by_cases hRoom : memory.Holds text
          · simp only [deliver, write, hRoom, if_true]
            exact .told text
          · simp only [deliver, write, hRoom, if_false]
            exact .untold .ioError (by decide)

end Boundary

end CallDiagnosis

------------------------------------------------------------
-- Answers that Clear the Slot
------------------------------------------------------------

namespace CallDiagnosis

namespace Boundary

variable (memory : Memory)
variable (e : Errno)
variable (slot : Slot)

theorem settled_answerGeneral
    (call : TextView) :
    Settled (answerGeneral memory e call (some slot)) := by
  unfold answerGeneral
  split
  · exact .untold .invalidArgument (by decide)
  · exact settled_deliver memory .notAnError (by decide) _

variable {σ : Type}
variable (host : Host surroundings σ)
variable (level : Log.Level)
variable (state : σ)
variable (handle : Handle)

theorem settled_answerPath
    (path : TextView)
    (intent : UInt32)
    (expected : Int32) :
    Settled
      ((answerPath memory handle e path intent expected
          (some slot)).run host level state).value := by
  unfold answerPath
  split
  · split
    · simp only [Inquiry.run_bind, Inquiry.run_pure,
        Run.followedBy_value]
      exact settled_deliver memory .noExplanation (by decide) _
    · exact .untold .disabled (by decide)
  · exact .untold .invalidArgument (by decide)

theorem settled_answerReadCall
    (call : Call) :
    Settled
      ((answerReadCall memory handle e call (some slot)).run
        host level state).value := by
  unfold answerReadCall
  split
  · exact .untold .invalidArgument (by decide)
  · split
    · exact .untold .notAnError (by decide)
    · simp only [Inquiry.run_bind, Inquiry.run_pure,
        Run.followedBy_value]
      exact settled_deliver memory .notAnError (by decide) _

end Boundary

end CallDiagnosis

------------------------------------------------------------
-- The Way around the Slot
------------------------------------------------------------

namespace CallDiagnosis

namespace Boundary

namespace Topic

/- The path of the call that a topic is about. -/
def callPath? :
    Topic → Option TextView
| .openFile lent _ _ => some lent
| .chroot lent => some lent
| .lstat lent => some lent
| .stat lent => some lent
| .unlink lent => some lent
| .general _ => none
| .path _ _ _ => none

/- A topic about a call whose path cannot be read. -/
def Unread
    (topic : Topic) :
    Prop :=
  ∃ lent, topic.callPath? = some lent ∧ lent.read? = none

end Topic

variable (memory : Memory)
variable (e : Errno)
variable {σ : Type}
variable (host : Host surroundings σ)
variable (level : Log.Level)
variable (state : σ)
variable (handle : Handle)

/- A path that cannot be read leaves the slot as it was. -/
theorem value_answerCall_unread
    (path : TextView)
    (call : String → Call)
    (out : Option Slot)
    (hPath : path.read? = none) :
    ((answerCall memory handle e path call out).run
        host level state).value =
      (.invalidArgument, out) := by
  simp [answerCall, hPath]

/- Once the path has been read, the slot is settled. -/
theorem settled_answerCall
    (path : TextView)
    (call : String → Call)
    (slot : Slot)
    (hPath : path.read? ≠ none) :
    Settled
      ((answerCall memory handle e path call (some slot)).run
        host level state).value := by
  rcases Option.ne_none_iff_exists'.1 hPath with ⟨p, hRead⟩
  simp only [answerCall, hRead]
  exact settled_answerReadCall memory e slot host level state
    handle (call p)

/- Every call is answered in the same way, from its path. -/
theorem answer_of_callPath
    (topic : Topic)
    (path : TextView)
    (hTopic : topic.callPath? = some path) :
    ∃ call : String → Call, ∀ out,
      answer memory handle e out topic =
        answerCall memory handle e path call out := by
  cases topic with
  | general call => cases hTopic
  | path path intent expected => cases hTopic
  | openFile path flags mode =>
      cases hTopic
      exact ⟨_, fun out => rfl⟩
  | chroot path =>
      cases hTopic
      exact ⟨_, fun out => rfl⟩
  | lstat path =>
      cases hTopic
      exact ⟨_, fun out => rfl⟩
  | stat path =>
      cases hTopic
      exact ⟨_, fun out => rfl⟩
  | unlink path =>
      cases hTopic
      exact ⟨_, fun out => rfl⟩

/- Without the path of a call the slot is always settled. -/
theorem settled_answer_of_callPath_none
    (topic : Topic)
    (slot : Slot)
    (hTopic : topic.callPath? = none) :
    Settled
      ((answer memory handle e (some slot) topic).run
        host level state).value := by
  cases topic with
  | general call => exact settled_answerGeneral memory e slot call
  | path path intent expected =>
      exact settled_answerPath memory e slot host level state
        handle path intent expected
  | openFile path flags mode => cases hTopic
  | chroot path => cases hTopic
  | lstat path => cases hTopic
  | stat path => cases hTopic
  | unlink path => cases hTopic

/-
  Whatever text was in the slot, an answer leaves the slot
  settled exactly if it did not stumble over the path of a
  call; if it did, the text is still there.
-/
theorem answer_settled_iff
    (previous : String)
    (topic : Topic) :
    (Settled
        ((answer memory handle e (some (.stale previous))
          topic).run host level state).value ↔
      ¬ topic.Unread) ∧
    (Settled
        ((answer memory handle e (some (.stale previous))
          topic).run host level state).value ∨
      ((answer memory handle e (some (.stale previous))
          topic).run host level state).value =
        (.invalidArgument, some (.stale previous))) := by
  cases hTopic : topic.callPath? with
  | none =>
      have hSettled :=
        settled_answer_of_callPath_none memory e host level state
          handle topic (.stale previous) hTopic
      have hRead : ¬ topic.Unread := by
        rintro ⟨path, hPath, -⟩
        rw [hTopic] at hPath
        cases hPath
      exact ⟨⟨fun _ => hRead, fun _ => hSettled⟩,
        .inl hSettled⟩
  | some path =>
      rcases
          answer_of_callPath memory e handle topic path
            hTopic with
        ⟨call, hCall⟩
      rw [hCall]
      by_cases hPath : path.read? = none
      · have hValue :=
          value_answerCall_unread memory e host level state handle
            path call (some (.stale previous)) hPath
        have hUnread : topic.Unread := ⟨path, hTopic, hPath⟩
        rw [hValue]
        refine ⟨?_, .inr rfl⟩
        constructor
        · intro hSettled
          exact absurd hSettled (not_settled_stale _ _)
        · intro hRead
          exact absurd hUnread hRead
      · have hSettled :=
          settled_answerCall memory e host level state handle path
            call (.stale previous) hPath
        have hRead : ¬ topic.Unread := by
          rintro ⟨other, hOther, hUnread⟩
          rw [hTopic] at hOther
          cases hOther
          exact hPath hUnread
        exact ⟨⟨fun _ => hRead, fun _ => hSettled⟩,
          .inl hSettled⟩

/- A lone byte 255 is not text, and the old text stays. -/
theorem not_settled_of_lone_byte :
    ¬ Settled
      ((answer .ample
          (some (.start .standard (.ofPath "/") .empty))
          .enoent (some (.stale "previous"))
          (.stat (.lent ⟨#[255]⟩))).run
        Scenario.host .off ⟨[], 500, .standard⟩).value := by
  have hRead : TextView.read? (.lent ⟨#[255]⟩) = none := by
    decide
  rw [answer, value_answerCall_unread _ _ _ _ _ _ _ _ _ hRead]
  exact not_settled_stale _ _

end Boundary

end CallDiagnosis
