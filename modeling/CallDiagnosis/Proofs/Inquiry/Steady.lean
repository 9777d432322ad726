import CallDiagnosis.Proofs.Inquiry.Sequencing
import CallDiagnosis.Scenario

/-
  Hosts that answer by the question alone.

  Key definitions include:
    * `CallDiagnosis.Host.Steady`
    * `CallDiagnosis.Scenario.still`

  Key theorems include:
    * `CallDiagnosis.Inquiry.run_of_steady`

  A host may answer a question in another way once others have
  been asked.  A steady host does not: whatever state it is in,
  it gives each question the one answer it has for it.  What is
  found and asked against such a host does not depend on what
  was asked before.
-/

------------------------------------------------------------
-- Steady Hosts
------------------------------------------------------------

namespace CallDiagnosis

namespace Host

variable {V : Vocabulary}
variable {σ : Type}

/- Each question has one answer, whatever was asked before. -/
def Steady
    (host : Host V σ) :
    Prop :=
  ∀ (question : V.Question) (state other : σ),
    (host.answer question state).1 =
      (host.answer question other).1

end Host

namespace Inquiry

variable {V : Vocabulary}
variable {σ α : Type}
variable {host : Host V σ}

/- Against a steady host every run finds and asks the same. -/
theorem run_of_steady
    (hSteady : host.Steady)
    (x : Inquiry V α)
    (level : Log.Level)
    (state other : σ) :
    (x.run host level state).value =
        (x.run host level other).value ∧
      (x.run host level state).exchanges =
        (x.run host level other).exchanges := by
  induction x generalizing state other with
  | done value => exact ⟨rfl, rfl⟩
  | note record next ih => exact ih state other
  | heed next ih => exact ih level state other
  | ask question next ih =>
      simp only [run, Run.withExchange,
        hSteady question state other]
      rcases ih (host.answer question other).1
          (host.answer question state).2
          (host.answer question other).2 with
        ⟨hValue, hExchanges⟩
      exact ⟨hValue, congrArg _ hExchanges⟩

theorem value_run_of_steady
    (hSteady : host.Steady)
    (x : Inquiry V α)
    (level : Log.Level)
    (state other : σ) :
    (x.run host level state).value =
      (x.run host level other).value :=
  (run_of_steady hSteady x level state other).1

end Inquiry

end CallDiagnosis

------------------------------------------------------------
-- Scenes that Stand Still
------------------------------------------------------------

namespace CallDiagnosis

namespace Scenario

/-
  A host that shows what a scenario shows first, time after
  time, and counts what it was asked.
-/
def still
    (s : Scenario) :
    Host surroundings Nat :=
  ⟨fun question count => ((answer question s).1, count + 1)⟩

theorem still_steady
    (s : Scenario) :
    s.still.Steady :=
  fun _ _ _ => rfl

end Scenario

end CallDiagnosis
