import CallDiagnosis.Proofs.Walk.Obstacle
import Mathlib.Data.Nat.Find

/-
  The calls that a walk makes.

  Key definitions include:
    * `CallDiagnosis.Walk.Stops`
    * `CallDiagnosis.Walk.itinerary`
    * `CallDiagnosis.Walk.inspectOr`

  Key theorems include:
    * `CallDiagnosis.Walk.questions_inspect_stop`
    * `CallDiagnosis.Walk.inspectOr_eq_inspect`
    * `CallDiagnosis.Walk.walk_calls_down_to_first_stop`

  A walk lets pending signals be serviced and looks at a step,
  and so on from the root down to the first step that stops
  it.  Nothing else is asked, but for a last look at the
  directory that contains a refused leaf.
-/

------------------------------------------------------------
-- Stops
------------------------------------------------------------

namespace CallDiagnosis

namespace Walk

variable {σ : Type}
variable (host : Host surroundings σ)
variable (signals : SignalCheck)
variable (cs : List String)
variable (state : σ)

/-
  A walk stops at a step that cannot be looked at, at a step
  on the way through which no path can lead, and at the last
  step.
-/
inductive Stops
    (k : Nat) :
    Prop where
| failed
    (reason : Errno)
    (hSeen : host.seen signals cs state k = .error reason)
| obstructed
    (status : FileStatus)
    (hInner : k + 1 < cs.length)
    (hSeen : host.seen signals cs state k = .ok status)
    (hKind :
      status.kind ≠ .directory ∧ status.kind ≠ .symlink)
| last
    (hLast : k + 1 = cs.length)

/- A step stops a walk unless it leads on and is not the last. -/
theorem stops_iff
    (k : Nat)
    (hBound : k < cs.length) :
    Stops host signals cs state k ↔
      LeadsOn (host.seen signals cs state k) →
        k + 1 = cs.length := by
  constructor
  · intro hStops hLeads
    cases hStops with
    | failed reason hSeen =>
        rw [hSeen] at hLeads
        exact absurd hLeads (leadsOn_error reason)
    | obstructed status hInner hSeen hKind =>
        rw [hSeen, leadsOn_ok] at hLeads
        exact absurd hLeads (not_or.mpr hKind)
    | last hLast => exact hLast
  · intro hLast
    cases hSeen : host.seen signals cs state k with
    | error reason => exact .failed reason hSeen
    | ok status =>
        rw [hSeen, leadsOn_ok] at hLast
        by_cases hKind : status.Traversable
        · exact .last (hLast hKind)
        · by_cases hInner : k + 1 < cs.length
          · exact .obstructed status hInner hSeen
              (not_or.mp hKind)
          · exact .last (by omega)

/- A step that does not stop a walk leads on. -/
theorem leadsOn_of_not_stops
    (k : Nat)
    (hBound : k < cs.length)
    (hOnward : ¬ Stops host signals cs state k) :
    LeadsOn (host.seen signals cs state k) := by
  rw [stops_iff host signals cs state k hBound] at hOnward
  exact (Classical.not_imp.mp hOnward).1

/- Every walk has a first step at which it stops. -/
theorem exists_first_stop
    (hSteps : 0 < cs.length) :
    ∃ k < cs.length,
      Stops host signals cs state k ∧
      ∀ i < k, ¬ Stops host signals cs state i := by
  classical
  have hLast :
      Stops host signals cs state (cs.length - 1) :=
    .last (by omega)
  have hStop : ∃ k, Stops host signals cs state k :=
    ⟨_, hLast⟩
  refine ⟨Nat.find hStop, ?_, Nat.find_spec hStop, ?_⟩
  · have hLeast := Nat.find_min' hStop hLast
    omega
  · intro i hi
    exact Nat.find_min hStop hi

end Walk

end CallDiagnosis

------------------------------------------------------------
-- Questions on the Way
------------------------------------------------------------

namespace CallDiagnosis

namespace Walk

/-
  The questions about the first steps of a visit, in order:
  before each look, signals are serviced.
-/
def itinerary
    (signals : SignalCheck)
    (cs : List String)
    (count : Nat) :
    List Question :=
  (List.range count).flatMap fun i =>
    [.signal signals, .probe (Path.reach cs (i + 1))]

theorem itinerary_succ
    (signals : SignalCheck)
    (cs : List String)
    (count : Nat) :
    itinerary signals cs (count + 1) =
      itinerary signals cs count ++
        [.signal signals,
          .probe (Path.reach cs (count + 1))] := by
  simp [itinerary, List.range_succ]

variable {σ : Type}
variable (host : Host surroundings σ)
variable (level : Log.Level)
variable (state : σ)
variable (signals : SignalCheck)
variable (limit : Option UInt64)
variable (e : Errno)
variable (intent : Intent)
variable (expected : ExpectedKind)

/- The looks at the first steps ask what the itinerary says. -/
theorem questions_looksExchanges
    (cs : List String)
    (count : Nat) :
    (host.looksExchanges signals cs state count).map
        Exchange.question =
      itinerary signals cs count := by
  induction count with
  | zero => rfl
  | succ count ih =>
      rw [itinerary_succ, ← ih]
      simp [Host.looksExchanges, Host.lookExchanges]

section Steps

variable (step : Path.Step)
variable (rest : List Path.Step)

/- After a step that cannot be looked at nothing is asked. -/
theorem questions_inspect_failure
    (reason : Errno)
    (hFits : brokenLimit? limit step.component = none)
    (hSeen :
      (host.look signals step.path state).1 =
        .error reason) :
    ((inspect signals limit e intent expected
        (step :: rest)).run host level state).questions =
      [.signal signals, .probe step.path] := by
  unfold Host.look at hSeen
  by_cases hRest : rest = []
  · simp [inspect, hFits, hSeen, hRest, Run.questions]
  · simp [inspect, hFits, hSeen, hRest, Run.questions]

/- Neither is after a step through which no path can lead. -/
theorem questions_inspect_obstructed
    (status : FileStatus)
    (hFits : brokenLimit? limit step.component = none)
    (hRest : rest ≠ [])
    (hSeen :
      (host.look signals step.path state).1 = .ok status)
    (hObstructed : ¬ status.Traversable) :
    ((inspect signals limit e intent expected
        (step :: rest)).run host level state).questions =
      [.signal signals, .probe step.path] := by
  unfold Host.look at hSeen
  simp [inspect, hFits, hSeen, hRest, hObstructed,
    Run.questions]

/-
  After the last step only a refusal asks for one look more,
  at the directory that contains it.
-/
theorem questions_inspect_last
    (status : FileStatus)
    (hFits : brokenLimit? limit step.component = none)
    (hSeen :
      (host.look signals step.path state).1 = .ok status) :
    ((inspect signals limit e intent expected
        [step]).run host level state).questions =
      [.signal signals, .probe step.path] ++
        if e = .eacces ∧ step.parent ≠ "" then
          [.probe step.parent]
        else
          [] := by
  unfold Host.look at hSeen
  by_cases hRefused : e = .eacces
  · by_cases hParent : step.parent = ""
    · simp [inspect, hFits, hSeen, leafSuccess, leafRefused,
        hRefused, hParent, Run.questions]
    · simp [inspect, hFits, hSeen, leafSuccess, leafRefused,
        hRefused, hParent, Run.questions]
      split <;> simp
  · simp [inspect, hFits, hSeen, leafSuccess, hRefused,
      Run.questions]

end Steps

end Walk

end CallDiagnosis

------------------------------------------------------------
-- The Way out of the Inspection
------------------------------------------------------------

namespace CallDiagnosis

namespace Walk

variable (signals : SignalCheck)
variable (limit : Option UInt64)
variable (e : Errno)
variable (intent : Intent)
variable (expected : ExpectedKind)

/-
  One round of an inspection.  A step on the way that leads
  on hands over to what comes after it.
-/
def visit
    (step : Path.Step)
    (isLast : Bool)
    (onward : Consult (Option Diagnosis)) :
    Consult (Option Diagnosis) := do
  Consult.signal signals
  match brokenLimit? limit step.component with
  | some l => return some (.nameTooLong step.component l)
  | none =>
    match ← Consult.probe step.path with
    | .error reason =>
        Inquiry.log .trace
          (s!"probe of '{step.path}' failed " ++
            s!"with errno {reason.code.toInt}")
        if isLast then
          return leafFailure step reason intent expected
        else
          return innerFailure step reason
    | .ok status =>
        if isLast then
          leafSuccess e step status intent expected
        else if status.Traversable then
          onward
        else
          return some (.notDirectory step.path)

/-
  An inspection that answers with `otherwise` should it run
  out of steps.
-/
def inspectOr
    (otherwise : Consult (Option Diagnosis)) :
    List Path.Step → Consult (Option Diagnosis)
| [] => otherwise
| step :: rest =>
    visit signals limit e intent expected step rest.isEmpty
      (inspectOr otherwise rest)

/- What comes after the last step does not matter. -/
theorem visit_last
    (step : Path.Step)
    (onward other : Consult (Option Diagnosis)) :
    visit signals limit e intent expected step true onward =
      visit signals limit e intent expected step true
        other :=
  rfl

/- An inspection is one that finds nothing at its end. -/
theorem inspect_eq_inspectOr
    (steps : List Path.Step) :
    inspect signals limit e intent expected steps =
      inspectOr signals limit e intent expected
        (pure none) steps := by
  induction steps with
  | nil => rfl
  | cons step rest ih =>
      rw [inspectOr, ← ih]
      rfl

/-
  An inspection never runs out of steps: its last round does
  not hand over.
-/
theorem inspectOr_eq_inspect
    (otherwise : Consult (Option Diagnosis))
    (steps : List Path.Step)
    (hSteps : steps ≠ []) :
    inspectOr signals limit e intent expected otherwise
        steps =
      inspect signals limit e intent expected steps := by
  rw [inspect_eq_inspectOr]
  induction steps with
  | nil => exact absurd rfl hSteps
  | cons step rest ih =>
      cases rest with
      | nil =>
          exact visit_last signals limit e intent expected
            step otherwise (pure none)
      | cons below rest =>
          rw [inspectOr, ih (by simp)]
          rfl

end Walk

end CallDiagnosis

------------------------------------------------------------
-- All Calls of a Walk
------------------------------------------------------------

namespace CallDiagnosis

namespace Walk

variable {σ : Type}
variable (host : Host surroundings σ)
variable (level : Log.Level)
variable (state : σ)
variable (signals : SignalCheck)
variable (e : Errno)
variable (intent : Intent)
variable (expected : ExpectedKind)
variable (path : String)

/-
  At the step where a walk stops nothing is asked but a look
  at the step, and one more look above a refused leaf.
-/
theorem questions_inspect_stop
    (k : Nat)
    (hBound : k < (Path.components path).length)
    (hStops :
      Stops host signals (Path.components path) state k) :
    ((inspect signals none e intent expected
        ((Path.steps path).drop k)).run host level
        (host.afterLooks signals
          (Path.components path) state k)).questions =
      [.signal signals,
        .probe (Path.reach (Path.components path) (k + 1))] ++
        if e = .eacces ∧
            k + 1 = (Path.components path).length ∧
            (host.seen signals
              (Path.components path) state k).isOk ∧
            0 < k then
          [.probe (Path.reach (Path.components path) k)]
        else
          [] := by
  have hSteps := Path.drop_steps path k hBound
  rw [hSteps]
  cases hSeen :
      host.seen signals (Path.components path) state k with
  | error reason =>
      rw [questions_inspect_failure host level _ signals none e
        intent expected (Path.stepAt _ k) _ reason rfl hSeen]
      simp [Except.isOk, Except.toBool, Path.stepAt]
  | ok status =>
      by_cases hLast :
          k + 1 = (Path.components path).length
      · have hBelow : (Path.steps path).drop (k + 1) = [] := by
          simp [hLast]
        rw [hBelow,
          questions_inspect_last host level _ signals none e
            intent expected (Path.stepAt _ k) status rfl hSeen]
        simp [Path.stepAt, Except.isOk, Except.toBool, hLast,
          Path.reach_eq_empty_iff, Nat.pos_iff_ne_zero]
      · have hBelow : (Path.steps path).drop (k + 1) ≠ [] := by
          simp
          omega
        have hObstructed : ¬ status.Traversable := by
          rw [stops_iff _ _ _ _ k hBound, hSeen, leadsOn_ok]
            at hStops
          exact fun hKind => hLast (hStops hKind)
        rw [questions_inspect_obstructed host level _ signals
          none e intent expected (Path.stepAt _ k) _ status
          rfl hBelow hSeen hObstructed]
        simp [Path.stepAt, hLast]

/-
  A walk down a path that is not empty asks for no limit.
  From the root down to the first step that stops it, it lets
  signals be serviced and looks at the step.  Then, exactly if
  a leaf below the root was found although access to it was
  denied, it looks at the directory above the leaf once more.
  Whatever is put behind its last step is never reached.
-/
theorem walk_calls_down_to_first_stop
    (c : Context)
    (hPath : path ≠ "")
    (hErrno : e ≠ .enametoolong) :
    (∃ k < (Path.components (c.resolve path)).length,
      Stops host c.signals
        (Path.components (c.resolve path)) state k ∧
      (∀ i < k,
        ¬ Stops host c.signals
          (Path.components (c.resolve path)) state i) ∧
      ((walk c e path intent expected).run
          host level state).questions =
        itinerary c.signals
            (Path.components (c.resolve path)) (k + 1) ++
          if e = .eacces ∧
              k + 1 =
                (Path.components (c.resolve path)).length ∧
              (host.seen c.signals
                (Path.components (c.resolve path))
                state k).isOk ∧
              0 < k then
            [.probe
              (Path.reach
                (Path.components (c.resolve path)) k)]
          else
            []) ∧
    ∀ limit otherwise,
      inspectOr c.signals limit e intent expected otherwise
          (Path.steps (c.resolve path)) =
        inspect c.signals limit e intent expected
          (Path.steps (c.resolve path)) := by
  have hLength :=
    Path.length_components_pos (c.resolve path)
  constructor
  · rcases
        exists_first_stop host c.signals
          (Path.components (c.resolve path)) state hLength with
      ⟨k, hBound, hStops, hFirst⟩
    have hLeads :
        ∀ i < k,
          LeadsOn
            (host.seen c.signals
              (Path.components (c.resolve path)) state i) := by
      intro i hi
      have hOnward := hFirst i hi
      rw [stops_iff _ _ _ _ i (by omega)] at hOnward
      exact (Classical.not_imp.mp hOnward).1
    refine ⟨k, hBound, hStops, hFirst, ?_⟩
    rw [questions_walk host level state e intent expected c
        path hPath hErrno,
      run_inspect_drop host level state c.signals e intent
        expected (c.resolve path) k hBound hLeads,
      Run.questions_followedBy,
      questions_inspect_stop host level state c.signals e
        intent expected (c.resolve path) k hBound hStops,
      itinerary_succ, ← questions_looksExchanges host state,
      List.append_assoc]
    rfl
  · intro limit otherwise
    have hSteps : Path.steps (c.resolve path) ≠ [] := by
      rw [← List.length_pos_iff, Path.length_steps]
      exact hLength
    exact inspectOr_eq_inspect c.signals limit e intent
      expected otherwise _ hSteps

/- A file behind a link that its reader may not read. -/
def deniedTree : Scenario :=
  ⟨[("/", [.ok ⟨.directory, 0o755, 0, 0⟩]),
    ("/srv", [.ok ⟨.symlink, 0o777, 0, 0⟩]),
    ("/srv/x", [.ok ⟨.regular, 0o600, 0, 0⟩])],
    500, .standard⟩

/- The link above the file is looked at again. -/
theorem walk_calls_down_to_first_stop_of_deniedTree :
    "srv/x" ≠ "" ∧
    Errno.eacces ≠ .enametoolong ∧
    ((walk rootContext .eacces "srv/x" .wantRead
        .regular).run Scenario.host .off
          deniedTree).questions =
      [.signal .idle, .probe "/",
        .signal .idle, .probe "/srv",
        .signal .idle, .probe "/srv/x",
        .probe "/srv"] := by
  have hPath : "srv/x" ≠ "" := by decide
  have hErrno : Errno.eacces ≠ .enametoolong := by decide
  refine ⟨hPath, hErrno, ?_⟩
  have hComponents :
      Path.components (rootContext.resolve "srv/x") =
        ["/", "srv", "x"] := by
    decide
  rcases
      walk_calls_down_to_first_stop Scenario.host .off
        deniedTree .eacces .wantRead .regular "srv/x"
        rootContext hPath hErrno with
    ⟨⟨k, hBound, hStops, -, hCalls⟩, -⟩
  rw [hComponents] at hBound hStops hCalls
  rw [stops_iff _ _ _ _ k hBound] at hStops
  match k with
  | 0 => exact absurd (hStops ⟨_, rfl, .inl rfl⟩) (by decide)
  | 1 => exact absurd (hStops ⟨_, rfl, .inr rfl⟩) (by decide)
  | 2 => exact hCalls.trans (by decide)

end Walk

end CallDiagnosis
