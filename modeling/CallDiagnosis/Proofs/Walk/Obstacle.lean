import CallDiagnosis.Proofs.Walk.Looks
import CallDiagnosis.Scenario
import CallDiagnosis.Viewpoint
import Mathlib.Tactic.SplitIfs

/-
  The first step that stops a walk.

  Key definitions include:
    * `CallDiagnosis.Walk.FailureSentence`
    * `CallDiagnosis.Walk.InnerSentence`
    * `CallDiagnosis.Walk.LeafSentence`

  Key theorems include:
    * `CallDiagnosis.Walk.walk_tells_first_obstacle`

  The rules for what a reader is told about a step are
  written down here as sentences, one constructor for each.
  A step on the way that stops the walk is told in the same
  words whatever the error was and whatever the caller
  wanted; only at the last step the caller's wishes matter.
-/

------------------------------------------------------------
-- Sentences
------------------------------------------------------------

namespace CallDiagnosis

namespace Walk

/-
  What is told about a step that cannot be looked at.  The
  sentences for a missing step and for a denied one depend
  on where the step is; the other ones do not.
-/
inductive FailureSentence
    (missing denied parent path : String) :
    Errno → Option String → Prop where
| missing :
    FailureSentence missing denied parent path
      .enoent (some missing)
| denied :
    FailureSentence missing denied parent path
      .eacces (some denied)
| notDirectory :
    FailureSentence missing denied parent path
      .enotdir
      (some s!"path '{parent}' does not refer to a directory")
| tooManyLinks :
    FailureSentence missing denied parent path
      .eloop
      (some
        ("too many symbolic links were encountered while " ++
          s!"resolving '{path}'"))
| tooLong :
    FailureSentence missing denied parent path
      .enametoolong
      (some s!"path '{path}' is too long to be resolved")
| silent
    (reason : Errno)
    (hOther :
      reason ∉
        [.enoent, .eacces, .enotdir, .eloop, .enametoolong]) :
    FailureSentence missing denied parent path reason none

/- The rules never leave a choice between two sentences. -/
theorem FailureSentence.unique
    {missing denied parent path : String}
    {reason : Errno}
    {first second : Option String}
    (hFirst :
      FailureSentence missing denied parent path reason first)
    (hSecond :
      FailureSentence missing denied parent path reason
        second) :
    first = second := by
  cases hFirst <;> cases hSecond <;> simp_all

/- What is told about a step on the way that stops a walk. -/
inductive InnerSentence
    (parent path : String) :
    Except Errno FileStatus → Option String → Prop where
| failed
    (reason : Errno)
    (sentence : Option String)
    (hSentence :
      FailureSentence
        s!"directory '{path}' does not exist"
        s!"directory '{parent}' is not searchable by the user"
        parent path reason sentence) :
    InnerSentence parent path (.error reason) sentence
| obstructed
    (status : FileStatus)
    (hKind :
      status.kind ≠ .directory ∧ status.kind ≠ .symlink) :
    InnerSentence parent path (.ok status)
      (some s!"path '{path}' does not refer to a directory")

/- What is told about a last step that cannot be looked at. -/
inductive LeafSentence
    (intent : Intent)
    (expected : ExpectedKind)
    (parent path : String) :
    Errno → Option String → Prop where
| search
    (reason : Errno)
    (sentence : Option String)
    (hIntent : intent.Contains .wantSearch)
    (hSentence :
      FailureSentence
        s!"{expected.noun} '{path}' does not exist"
        s!"directory '{parent}' is not searchable by the user"
        parent path reason sentence) :
    LeafSentence intent expected parent path reason sentence
| change
    (reason : Errno)
    (sentence : Option String)
    (hIntent : ¬ intent.Contains .wantSearch)
    (hSentence :
      FailureSentence
        s!"{expected.noun} '{path}' does not exist"
        (s!"containing directory '{parent}' is not writable " ++
          "by the user")
        parent path reason sentence) :
    LeafSentence intent expected parent path reason sentence

end Walk

end CallDiagnosis

------------------------------------------------------------
-- Sentences of Diagnoses
------------------------------------------------------------

namespace CallDiagnosis

namespace Walk

theorem parentOrRoot_reach
    (path : String)
    (k : Nat) :
    parentOrRoot (Path.reach (Path.components path) k) =
      Path.above (Path.components path) k := by
  unfold parentOrRoot Path.above
  simp only [Path.reach_eq_empty_iff]

/- The blame for a failed look reads as the rules say. -/
theorem text_stepFailure
    (step : Path.Step)
    (reason : Errno)
    (missing denied : Diagnosis) :
    FailureSentence missing.text denied.text
      (parentOrRoot step.parent) step.path reason
      ((stepFailure step reason missing denied).map
        Diagnosis.text) := by
  unfold stepFailure
  split_ifs with hMissing hDenied hDirectory hLoop hLong
  · rw [hMissing]
    exact .missing
  · rw [hDenied]
    exact .denied
  · rw [hDirectory]
    exact .notDirectory
  · rw [hLoop]
    exact .tooManyLinks
  · rw [hLong]
    exact .tooLong
  · exact .silent reason (by simp_all)

theorem text_innerFailure
    (step : Path.Step)
    (reason : Errno) :
    InnerSentence (parentOrRoot step.parent) step.path
      (.error reason)
      ((innerFailure step reason).map Diagnosis.text) :=
  .failed reason _
    (text_stepFailure step reason
      (.missingDirectory step.path)
      (.notSearchable (parentOrRoot step.parent)))

theorem text_leafFailure
    (step : Path.Step)
    (reason : Errno)
    (intent : Intent)
    (expected : ExpectedKind) :
    LeafSentence intent expected (parentOrRoot step.parent)
      step.path reason
      ((leafFailure step reason intent expected).map
        Diagnosis.text) := by
  have hSentence :=
    text_stepFailure step reason
      (.missingLeaf expected step.path)
  simp only [leafFailure]
  by_cases hSearch : intent.Contains .wantSearch
  · rw [if_pos hSearch]
    exact .search reason _ hSearch
      (hSentence (.notSearchable (parentOrRoot step.parent)))
  · rw [if_neg hSearch]
    exact .change reason _ hSearch
      (hSentence (.notWritable (parentOrRoot step.parent)))

end Walk

end CallDiagnosis

------------------------------------------------------------
-- The First Obstacle
------------------------------------------------------------

namespace CallDiagnosis

namespace Walk

variable {σ : Type}
variable (host : Host surroundings σ)
variable (level : Log.Level)
variable (state : σ)

/-
  A step on the way that does not lead on decides the answer
  alone.
-/
theorem inspect_tells_inner
    (signals : SignalCheck)
    (path : String)
    (k : Nat)
    (hInner : k + 1 < (Path.components path).length)
    (hLeads :
      ∀ i < k,
        LeadsOn
          (host.seen signals (Path.components path) state i))
    (hStops :
      ¬ LeadsOn
        (host.seen signals (Path.components path) state k)) :
    ∃ found,
      (∀ e intent expected,
        ((inspect signals none e intent expected
          (Path.steps path)).run host level state).value =
            found) ∧
      InnerSentence
        (Path.above (Path.components path) k)
        (Path.reach (Path.components path) (k + 1))
        (host.seen signals (Path.components path) state k)
        (found.map Diagnosis.text) := by
  have hBound : k < (Path.components path).length := by
    omega
  have hBelow : (Path.steps path).drop (k + 1) ≠ [] := by
    simpa using hInner
  -- Once the steps before it have led on, the walk is one
  -- that starts at step `k`, whoever asked for it.
  have hDrop :
      ∀ e intent expected,
        ((inspect signals none e intent expected
          (Path.steps path)).run host level state).value =
        ((inspect signals none e intent expected
          (Path.stepAt (Path.components path) k ::
            (Path.steps path).drop (k + 1))).run host level
              (host.afterLooks signals
                (Path.components path) state k)).value := by
    intro e intent expected
    rw [run_inspect_drop host level state signals e intent
        expected path k hBound hLeads,
      Run.followedBy_value, Path.drop_steps path k hBound]
  cases hSeen :
      host.seen signals (Path.components path) state k with
  | error reason =>
      refine
        ⟨innerFailure (Path.stepAt (Path.components path) k)
          reason, ?_, ?_⟩
      · intro e intent expected
        rw [hDrop,
          value_inspect_failure host level _ signals none e
            intent expected
            (Path.stepAt (Path.components path) k) _ reason
            rfl hSeen,
          if_neg hBelow]
      · rw [← parentOrRoot_reach]
        exact
          text_innerFailure
            (Path.stepAt (Path.components path) k) reason
  | ok status =>
      rw [hSeen, leadsOn_ok] at hStops
      refine
        ⟨some (.notDirectory
          (Path.reach (Path.components path) (k + 1))),
          ?_, ?_⟩
      · intro e intent expected
        rw [hDrop]
        exact
          value_inspect_obstructed host level _ signals none e
            intent expected
            (Path.stepAt (Path.components path) k) _ status
            rfl hBelow hSeen hStops
      · exact .obstructed status (not_or.mp hStops)

/-
  A last step that cannot be looked at decides the answer
  together with what the caller wanted.
-/
theorem inspect_tells_leaf
    (signals : SignalCheck)
    (path : String)
    (last : Nat)
    (hLast : (Path.components path).length = last + 1)
    (hLeads :
      ∀ i < last,
        LeadsOn
          (host.seen signals (Path.components path) state i))
    (reason : Errno)
    (hSeen :
      host.seen signals (Path.components path) state last =
        .error reason)
    (intent : Intent)
    (expected : ExpectedKind) :
    ∃ found,
      (∀ e,
        ((inspect signals none e intent expected
          (Path.steps path)).run host level state).value =
            found) ∧
      LeafSentence intent expected
        (Path.above (Path.components path) last)
        (Path.reach (Path.components path) (last + 1))
        reason (found.map Diagnosis.text) := by
  have hBound : last < (Path.components path).length := by
    omega
  have hBelow : (Path.steps path).drop (last + 1) = [] := by
    simp [hLast]
  refine
    ⟨leafFailure (Path.stepAt (Path.components path) last)
      reason intent expected, ?_, ?_⟩
  · intro e
    rw [run_inspect_drop host level state signals e intent
        expected path last hBound hLeads,
      Run.followedBy_value, Path.drop_steps path last hBound,
      value_inspect_failure host level _ signals none e
        intent expected
        (Path.stepAt (Path.components path) last) _ reason
        rfl hSeen,
      if_pos hBelow]
  · rw [← parentOrRoot_reach]
    exact
      text_leafFailure
        (Path.stepAt (Path.components path) last) reason
        intent expected

/-
  A walk down a path that is not empty is always answered.
  If a step on the way cannot be looked at or cannot lead on,
  the first such step is told, and neither the error nor the
  caller's wishes change a word of it.  If all of them lead
  on and the last step cannot be looked at, the last step is
  told.
-/
theorem walk_tells_first_obstacle
    (c : Context)
    (path : String)
    (hPath : path ≠ "") :
    ∃ last,
      (Path.components (c.resolve path)).length = last + 1 ∧
      (∀ e intent expected, e ≠ .enametoolong →
        ∃ found,
          ((walk c e path intent expected).run
            host level state).value = .ok found) ∧
      (∀ k < last,
        (∀ i < k,
          LeadsOn
            (host.seen c.signals
              (Path.components (c.resolve path)) state i)) →
        ¬ LeadsOn
          (host.seen c.signals
            (Path.components (c.resolve path)) state k) →
        ∃ found,
          (∀ e intent expected, e ≠ .enametoolong →
            ((walk c e path intent expected).run
              host level state).value = .ok found) ∧
          InnerSentence
            (Path.above (Path.components (c.resolve path)) k)
            (Path.reach (Path.components (c.resolve path))
              (k + 1))
            (host.seen c.signals
              (Path.components (c.resolve path)) state k)
            (found.map Diagnosis.text)) ∧
      ((∀ i < last,
        LeadsOn
          (host.seen c.signals
            (Path.components (c.resolve path)) state i)) →
        ∀ reason,
          host.seen c.signals
              (Path.components (c.resolve path)) state last =
            .error reason →
        ∀ intent expected,
        ∃ found,
          (∀ e, e ≠ .enametoolong →
            ((walk c e path intent expected).run
              host level state).value = .ok found) ∧
          LeafSentence intent expected
            (Path.above (Path.components (c.resolve path))
              last)
            (Path.reach (Path.components (c.resolve path))
              (last + 1))
            reason (found.map Diagnosis.text)) := by
  have hLength :=
    Path.length_components_pos (c.resolve path)
  have hLast :
      (Path.components (c.resolve path)).length =
        (Path.components (c.resolve path)).length - 1 + 1 := by
    omega
  refine ⟨_, hLast, ?_, ?_, ?_⟩
  · intro e intent expected hErrno
    exact
      ⟨_, value_walk host level state e intent expected c path
        hPath hErrno⟩
  · intro k hInner hLeads hStops
    rcases
        inspect_tells_inner host level state c.signals
          (c.resolve path) k (by omega) hLeads hStops with
      ⟨found, hFound, hSentence⟩
    refine ⟨found, ?_, hSentence⟩
    intro e intent expected hErrno
    rw [value_walk host level state e intent expected c path
        hPath hErrno,
      hFound]
  · intro hLeads reason hSeen intent expected
    rcases
        inspect_tells_leaf host level state c.signals
          (c.resolve path) _ hLast hLeads reason hSeen intent
          expected with
      ⟨found, hFound, hSentence⟩
    refine ⟨found, ?_, hSentence⟩
    intro e hErrno
    rw [value_walk host level state e intent expected c path
        hPath hErrno,
      hFound]

/-
  A tree that others change: a link on the way vanishes after
  the first look at it, and the step below it, denied at the
  first look, would be a directory at the next one.
-/
def changingTree : Scenario :=
  ⟨[("/", [.ok ⟨.directory, 0o755, 0, 0⟩]),
    ("/srv", [.ok ⟨.symlink, 0o777, 0, 0⟩, .error .enoent]),
    ("/srv/x",
      [.error .eacces, .ok ⟨.directory, 0o755, 0, 0⟩])],
    500, .standard⟩

/- A session that was told nothing and sees from the root. -/
def rootContext : Context :=
  ⟨.empty, (WorkingDirectory.ofPath "/").resolve, .idle⟩

/- In that tree the blame falls on the link, for all callers. -/
theorem walk_tells_first_obstacle_of_changingTree :
    "srv/x/y" ≠ "" ∧
    ∃ found,
      (∀ e intent expected, e ≠ .enametoolong →
        ((walk rootContext e "srv/x/y" intent expected).run
          Scenario.host .off changingTree).value =
            .ok found) ∧
      found.map Diagnosis.text =
        some
          "directory '/srv' is not searchable by the user" := by
  have hPath : "srv/x/y" ≠ "" := by decide
  have hComponents :
      Path.components (rootContext.resolve "srv/x/y") =
        ["/", "srv", "x", "y"] := by
    decide
  rcases
      walk_tells_first_obstacle Scenario.host .off
        changingTree rootContext "srv/x/y" hPath with
    ⟨last, hLast, -, hInner, -⟩
  rw [hComponents] at hLast hInner
  have hThree : last = 3 := by
    simpa using hLast.symm
  subst hThree
  have hLeads :
      ∀ i < 2,
        LeadsOn
          (Scenario.host.seen .idle ["/", "srv", "x", "y"]
            changingTree i) := by
    intro i hi
    match i with
    | 0 => exact ⟨_, rfl, .inl rfl⟩
    | 1 => exact ⟨_, rfl, .inr rfl⟩
  have hSeen :
      Scenario.host.seen rootContext.signals
          ["/", "srv", "x", "y"] changingTree 2 =
        .error .eacces :=
    rfl
  have hAbove :
      Path.above ["/", "srv", "x", "y"] 2 = "/srv" := by
    decide
  rcases
      hInner 2 (by decide) hLeads
        (hSeen ▸ leadsOn_error .eacces) with
    ⟨found, hFound, hSentence⟩
  rw [hSeen, hAbove] at hSentence
  refine ⟨hPath, found, hFound, ?_⟩
  cases hSentence with
  | failed _ _ hSentence =>
      exact hSentence.unique .denied

end Walk

end CallDiagnosis
