import CallDiagnosis.Consult
import CallDiagnosis.Inquiry.Run

/-
  Runs of inquiries that follow one another.

  Key theorems include:
    * `CallDiagnosis.Inquiry.run_bind`
    * `CallDiagnosis.Inquiry.run_log`
    * `CallDiagnosis.Consult.run_probe`

  A run of a sequence is the run of its first part followed
  by the run of its second part from the state in which the
  first part left the host.  With these equations a run is
  computed without looking into the tree of an inquiry.
-/

------------------------------------------------------------
-- Runs of Sequences
------------------------------------------------------------

namespace CallDiagnosis

namespace Run

variable {V : Vocabulary}
variable {σ α β : Type}

/- A run followed by another one. -/
def followedBy
    (first : Run V σ α)
    (second : Run V σ β) :
    Run V σ β :=
  ⟨second.value, second.state,
    first.exchanges ++ second.exchanges,
    first.records ++ second.records⟩

@[simp] theorem followedBy_value
    (first : Run V σ α)
    (second : Run V σ β) :
    (first.followedBy second).value = second.value :=
  rfl

@[simp] theorem followedBy_state
    (first : Run V σ α)
    (second : Run V σ β) :
    (first.followedBy second).state = second.state :=
  rfl

@[simp] theorem followedBy_exchanges
    (first : Run V σ α)
    (second : Run V σ β) :
    (first.followedBy second).exchanges =
      first.exchanges ++ second.exchanges :=
  rfl

@[simp] theorem followedBy_records
    (first : Run V σ α)
    (second : Run V σ β) :
    (first.followedBy second).records =
      first.records ++ second.records :=
  rfl

/- Without an exchange no question was asked. -/
@[simp] theorem questions_of_nil
    (value : α)
    (state : σ)
    (records : List Log.Record) :
    (⟨value, state, [], records⟩ : Run V σ α).questions =
      [] :=
  rfl

@[simp] theorem questions_followedBy
    (first : Run V σ α)
    (second : Run V σ β) :
    (first.followedBy second).questions =
      first.questions ++ second.questions := by
  simp [questions]

end Run

namespace Inquiry

variable {V : Vocabulary}
variable {σ α β : Type}
variable (host : Host V σ)
variable (level : Log.Level)
variable (state : σ)

/- A value that is there already is found without a question. -/
@[simp] theorem run_pure
    (value : α) :
    (pure value : Inquiry V α).run host level state =
      ⟨value, state, [], []⟩ :=
  rfl

/- The same holds for one of two values. -/
theorem run_ite_pure
    (condition : Prop)
    [Decidable condition]
    (value other : α) :
    (if condition then
        (pure value : Inquiry V α)
      else
        pure other).run host level state =
      ⟨if condition then value else other, state, [], []⟩ := by
  by_cases hHolds : condition
  · rw [if_pos hHolds, if_pos hHolds]
    rfl
  · rw [if_neg hHolds, if_neg hHolds]
    rfl

/- A run of a sequence is one run followed by another. -/
@[simp] theorem run_bind
    (x : Inquiry V α)
    (f : α → Inquiry V β) :
    (x >>= f).run host level state =
      (x.run host level state).followedBy
        ((f (x.run host level state).value).run host level
          (x.run host level state).state) := by
  change (x.bind f).run host level state = _
  induction x generalizing state with
  | done value => rfl
  | note record next ih =>
      simp only [bind, run, ih]
      rfl
  | heed next ih =>
      simp only [bind, run, ih]
  | ask question next ih =>
      simp only [bind, run, ih]
      rfl

/- A note is kept as the level has it, and the run goes on. -/
theorem run_noted
    (record : Log.Record)
    (next : Inquiry V α) :
    (noted record next).run host level state =
      { next.run host level state with
        records :=
          if level.Admits record.severity then
            record :: (next.run host level state).records
          else
            (next.run host level state).records } := by
  by_cases hAdmits : level.Admits record.severity
  · simp only [noted, run, hAdmits, if_true, Run.withRecord]
  · simp only [noted, run, hAdmits, if_false]

/- A note asks nothing, and the level decides if it is kept. -/
@[simp] theorem run_log
    (severity : Log.Severity)
    (message : String) :
    (log severity message : Inquiry V Unit).run
        host level state =
      ⟨(), state, [],
        if level.Admits severity then
          [⟨severity, Log.target, message⟩]
        else
          []⟩ :=
  run_noted host level state
    ⟨severity, Log.target, message⟩ (.done ())

end Inquiry

end CallDiagnosis

------------------------------------------------------------
-- Runs of Single Questions
------------------------------------------------------------

namespace CallDiagnosis

namespace Consult

variable {σ : Type}
variable (host : Host surroundings σ)
variable (level : Log.Level)
variable (state : σ)

/- A question on its own is one exchange. -/
@[simp] theorem run_probe
    (path : String) :
    (probe path).run host level state =
      ⟨(host.answer (.probe path) state).1,
        (host.answer (.probe path) state).2,
        [⟨.probe path, (host.answer (.probe path) state).1⟩],
        []⟩ :=
  rfl

@[simp] theorem run_signal
    (check : SignalCheck) :
    (signal check).run host level state =
      ⟨(), (host.answer (.signal check) state).2,
        [⟨.signal check, ()⟩], []⟩ :=
  rfl

@[simp] theorem run_pathLimit
    (limit : PathLimit)
    (path : String) :
    (pathLimit limit path).run host level state =
      ⟨(host.answer (.pathLimit limit path) state).1,
        (host.answer (.pathLimit limit path) state).2,
        [⟨.pathLimit limit path,
          (host.answer (.pathLimit limit path) state).1⟩],
        []⟩ :=
  rfl

@[simp] theorem run_systemLimit
    (limit : SystemLimit) :
    (systemLimit limit).run host level state =
      ⟨(host.answer (.systemLimit limit) state).1,
        (host.answer (.systemLimit limit) state).2,
        [⟨.systemLimit limit,
          (host.answer (.systemLimit limit) state).1⟩],
        []⟩ :=
  rfl

end Consult

end CallDiagnosis
