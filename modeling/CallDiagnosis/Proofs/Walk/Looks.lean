import CallDiagnosis.Proofs.Inquiry.Sequencing
import CallDiagnosis.Proofs.Path.Reach
import CallDiagnosis.Walk

/-
  What a walk sees on its way.

  Key definitions include:
    * `CallDiagnosis.Host.look`
    * `CallDiagnosis.Host.afterLooks`
    * `CallDiagnosis.Host.seen`
    * `CallDiagnosis.Walk.LeadsOn`

  Key theorems include:
    * `CallDiagnosis.Walk.run_inspect_onward`
    * `CallDiagnosis.Walk.run_inspect_passed`
    * `CallDiagnosis.Walk.value_walk`

  A host may show something else at every look, so what a
  walk sees at a step depends on the looks before it.  These
  are the looks at the paths above the step, each once and
  from the root down, whatever the walk is about.  A walk
  comes to a step exactly if all steps above it lead on.
-/

------------------------------------------------------------
-- Looks
------------------------------------------------------------

namespace CallDiagnosis

namespace Host

variable {σ : Type}

/-
  What a host shows at a path, and its state afterwards, if
  it is let service pending signals first.
-/
def look
    (host : Host surroundings σ)
    (signals : SignalCheck)
    (path : String)
    (state : σ) :
    Except Errno FileStatus × σ :=
  host.answer (.probe path)
    (host.answer (.signal signals) state).2

/- The exchanges of a look. -/
def lookExchanges
    (host : Host surroundings σ)
    (signals : SignalCheck)
    (path : String)
    (state : σ) :
    List (Exchange surroundings) :=
  [⟨.signal signals, ()⟩,
    ⟨.probe path, (host.look signals path state).1⟩]

/-
  The state of a host after looks at the paths reached by the
  first steps of a visit.
-/
def afterLooks
    (host : Host surroundings σ)
    (signals : SignalCheck)
    (cs : List String)
    (state : σ) :
    Nat → σ
| 0 => state
| k + 1 =>
    (host.look signals (Path.reach cs (k + 1))
      (host.afterLooks signals cs state k)).2

/- What a host shows at a step after looks at those above. -/
def seen
    (host : Host surroundings σ)
    (signals : SignalCheck)
    (cs : List String)
    (state : σ)
    (k : Nat) :
    Except Errno FileStatus :=
  (host.look signals (Path.reach cs (k + 1))
    (host.afterLooks signals cs state k)).1

/- The exchanges of the looks at the first steps. -/
def looksExchanges
    (host : Host surroundings σ)
    (signals : SignalCheck)
    (cs : List String)
    (state : σ) :
    Nat → List (Exchange surroundings)
| 0 => []
| k + 1 =>
    host.looksExchanges signals cs state k ++
      host.lookExchanges signals (Path.reach cs (k + 1))
        (host.afterLooks signals cs state k)

end Host

namespace Walk

/- What was seen at a step lets a walk go on below it. -/
def LeadsOn
    (answer : Except Errno FileStatus) :
    Prop :=
  ∃ status, answer = .ok status ∧ status.Traversable

theorem leadsOn_error
    (reason : Errno) :
    ¬ LeadsOn (.error reason) := by
  rintro ⟨status, hStatus, -⟩
  exact absurd hStatus (by simp)

theorem leadsOn_ok
    (status : FileStatus) :
    LeadsOn (.ok status) ↔ status.Traversable := by
  constructor
  · rintro ⟨shown, hShown, hTraversable⟩
    rw [Except.ok.injEq] at hShown
    rw [hShown]
    exact hTraversable
  · intro hTraversable
    exact ⟨status, rfl, hTraversable⟩

end Walk

end CallDiagnosis

------------------------------------------------------------
-- Single Steps
------------------------------------------------------------

namespace CallDiagnosis

namespace Walk

variable {σ : Type}
variable (host : Host surroundings σ)
variable (level : Log.Level)
variable (state : σ)
variable (signals : SignalCheck)
variable (limit : Option UInt64)
variable (e : Errno)
variable (intent : Intent)
variable (expected : ExpectedKind)
variable (step : Path.Step)
variable (rest : List Path.Step)

/- A step that leads on costs one look and decides nothing. -/
theorem run_inspect_onward
    (hFits : brokenLimit? limit step.component = none)
    (hRest : rest ≠ [])
    (hSeen : LeadsOn (host.look signals step.path state).1) :
    (inspect signals limit e intent expected
        (step :: rest)).run host level state =
      Run.followedBy
        (⟨(), (host.look signals step.path state).2,
          host.lookExchanges signals step.path state, []⟩ :
            Run surroundings σ Unit)
        ((inspect signals limit e intent expected rest).run
          host level
          (host.look signals step.path state).2) := by
  rcases hSeen with ⟨status, hStatus, hTraversable⟩
  have hNonempty : rest.isEmpty = false := by
    simpa using hRest
  have hAnswer := hStatus
  unfold Host.look at hAnswer
  simp [inspect, hFits,
    hAnswer, hNonempty, hTraversable, Run.followedBy,
    Host.lookExchanges, hStatus]
  simp [Host.look]

/- A step that cannot be looked at ends the walk. -/
theorem value_inspect_failure
    (reason : Errno)
    (hFits : brokenLimit? limit step.component = none)
    (hSeen :
      (host.look signals step.path state).1 =
        .error reason) :
    ((inspect signals limit e intent expected
        (step :: rest)).run host level state).value =
      if rest = [] then
        leafFailure step reason intent expected
      else
        innerFailure step reason := by
  unfold Host.look at hSeen
  by_cases hRest : rest = []
  · simp [inspect, hFits,
      hSeen, hRest]
  · simp [inspect, hFits,
      hSeen, hRest]

/- So does a step on the way through which no path can lead. -/
theorem value_inspect_obstructed
    (status : FileStatus)
    (hFits : brokenLimit? limit step.component = none)
    (hRest : rest ≠ [])
    (hSeen :
      (host.look signals step.path state).1 = .ok status)
    (hObstructed : ¬ status.Traversable) :
    ((inspect signals limit e intent expected
        (step :: rest)).run host level state).value =
      some (.notDirectory step.path) := by
  unfold Host.look at hSeen
  simp [inspect, hFits,
    hSeen, hRest, hObstructed]

/- A last step that is there is told by the rules for it. -/
theorem value_inspect_found
    (status : FileStatus)
    (hFits : brokenLimit? limit step.component = none)
    (hSeen :
      (host.look signals step.path state).1 = .ok status) :
    ((inspect signals limit e intent expected
        [step]).run host level state).value =
      ((leafSuccess e step status intent expected).run host
        level (host.look signals step.path state).2).value := by
  unfold Host.look at hSeen ⊢
  simp [inspect, hFits, hSeen]

/-
  A denied step that is there is told together with what one
  more look above it shows, unless it is the root.
-/
theorem value_leafRefused
    (status : FileStatus) :
    ((leafRefused step status intent expected).run host level
        state).value =
      .refused (attempt intent)
        (if status.kind = .directory then
          .directory
        else
          expected)
        step.path
        (if step.parent = "" then
          none
        else
          (host.answer (.probe step.parent) state).1.toOption.map
            (Container.mk step.parent)) := by
  unfold leafRefused
  by_cases hRoot : step.parent = ""
  · rw [if_pos hRoot, if_pos hRoot]
    rfl
  · rw [if_neg hRoot, if_neg hRoot]
    cases hAbove :
        (host.answer (.probe step.parent) state).1 with
    | error reason =>
        simp [hAbove, Except.toOption]
    | ok container =>
        simp [hAbove, Except.toOption]

end Walk

end CallDiagnosis

------------------------------------------------------------
-- Walks down to a Step
------------------------------------------------------------

namespace CallDiagnosis

namespace Walk

variable {σ : Type}
variable (host : Host surroundings σ)
variable (level : Log.Level)
variable (state : σ)
variable (signals : SignalCheck)
variable (e : Errno)
variable (intent : Intent)
variable (expected : ExpectedKind)

/-
  Steps that lead on, with names that are not too long, are
  passed.  The induction is on the number of steps passed:
  the step after them is looked at in the state that the
  looks at them have left.
-/
theorem run_inspect_passed
    (limit : Option UInt64)
    (path : String)
    (k : Nat)
    (hBound : k < (Path.components path).length)
    (hFits :
      ∀ i < k,
        brokenLimit? limit
          ((Path.components path).getD i "") = none)
    (hLeads :
      ∀ i < k,
        LeadsOn
          (host.seen signals (Path.components path) state i)) :
    (inspect signals limit e intent expected
        (Path.steps path)).run host level state =
      Run.followedBy
        (⟨(), host.afterLooks signals
            (Path.components path) state k,
          host.looksExchanges signals
            (Path.components path) state k, []⟩ :
            Run surroundings σ Unit)
        ((inspect signals limit e intent expected
            ((Path.steps path).drop k)).run host level
          (host.afterLooks signals
            (Path.components path) state k)) := by
  induction k with
  | zero => rfl
  | succ k ih =>
      have hHere : k < (Path.components path).length := by
        omega
      have hBelow : (Path.steps path).drop (k + 1) ≠ [] := by
        simpa using hBound
      have hOnward :=
        run_inspect_onward host level
          (host.afterLooks signals
            (Path.components path) state k)
          signals limit e intent expected
          (Path.stepAt (Path.components path) k)
          ((Path.steps path).drop (k + 1))
          (hFits k (by omega)) hBelow (hLeads k (by omega))
      rw [ih hHere (fun i hi => hFits i (by omega))
          (fun i hi => hLeads i (by omega)),
        Path.drop_steps path k hHere, hOnward]
      simp [Run.followedBy, Host.afterLooks,
        Host.looksExchanges, Path.stepAt]

/- Where names may be of any length, leading on is enough. -/
theorem run_inspect_drop
    (path : String)
    (k : Nat)
    (hBound : k < (Path.components path).length)
    (hLeads :
      ∀ i < k,
        LeadsOn
          (host.seen signals (Path.components path) state i)) :
    (inspect signals none e intent expected
        (Path.steps path)).run host level state =
      Run.followedBy
        (⟨(), host.afterLooks signals
            (Path.components path) state k,
          host.looksExchanges signals
            (Path.components path) state k, []⟩ :
            Run surroundings σ Unit)
        ((inspect signals none e intent expected
            ((Path.steps path).drop k)).run host level
          (host.afterLooks signals
            (Path.components path) state k)) :=
  run_inspect_passed host level state signals e intent
    expected none path k hBound (fun _ _ => rfl) hLeads

/-
  Unless something is too long, a walk asks for no limit and
  is nothing but the inspection of its steps.
-/
theorem value_walk
    (c : Context)
    (path : String)
    (hPath : path ≠ "")
    (hErrno : e ≠ .enametoolong) :
    ((walk c e path intent expected).run
        host level state).value =
      .ok
        ((inspect c.signals none e intent expected
          (Path.steps (c.resolve path))).run
            host level state).value := by
  simp [walk, hPath, wholePath, hErrno, descend, nameLimit]

/- Its questions are those of the inspection as well. -/
theorem questions_walk
    (c : Context)
    (path : String)
    (hPath : path ≠ "")
    (hErrno : e ≠ .enametoolong) :
    ((walk c e path intent expected).run
        host level state).questions =
      ((inspect c.signals none e intent expected
        (Path.steps (c.resolve path))).run
          host level state).questions := by
  simp [walk, hPath, wholePath, hErrno, descend, nameLimit,
    Run.questions]

end Walk

end CallDiagnosis
