import CallDiagnosis.Proofs.Inquiry.Sequencing

/-
  Inquiries that keep to certain questions.

  Key definitions include:
    * `CallDiagnosis.Inquiry.Confined`
    * `CallDiagnosis.Host.Alike`

  Key theorems include:
    * `CallDiagnosis.Inquiry.Confined.bind`
    * `CallDiagnosis.Inquiry.Confined.questions`
    * `CallDiagnosis.Inquiry.Confined.run_congr`

  An inquiry is confined to some questions if it asks no
  other one, whatever it is answered.  Two states of a host
  from which all these questions are answered alike are then
  one and the same to it.
-/

------------------------------------------------------------
-- Confined Inquiries
------------------------------------------------------------

namespace CallDiagnosis

namespace Inquiry

variable {V : Vocabulary}
variable {α β : Type}

/- Whatever it is answered, an inquiry asks allowed questions. -/
inductive Confined
    (allowed : V.Question → Prop) :
    Inquiry V α → Prop where
| done
    (value : α) :
    Confined allowed (.done value)
| note
    (record : Log.Record)
    (next : Inquiry V α)
    (hNext : Confined allowed next) :
    Confined allowed (.note record next)
| heed
    (next : Log.Level → Inquiry V α)
    (hNext : ∀ level, Confined allowed (next level)) :
    Confined allowed (.heed next)
| ask
    (question : V.Question)
    (next : V.Answer question → Inquiry V α)
    (hQuestion : allowed question)
    (hNext : ∀ answer, Confined allowed (next answer)) :
    Confined allowed (.ask question next)

namespace Confined

variable {allowed : V.Question → Prop}

/- A sequence is confined if both of its parts are. -/
theorem bind
    {x : Inquiry V α}
    {f : α → Inquiry V β}
    (hFirst : Confined allowed x)
    (hSecond : ∀ value, Confined allowed (f value)) :
    Confined allowed (x >>= f) := by
  change Confined allowed (x.bind f)
  induction hFirst with
  | done value => exact hSecond value
  | note record next hNext ih =>
      exact .note record _ ih
  | heed next hNext ih =>
      exact .heed _ ih
  | ask question next hQuestion hNext ih =>
      exact .ask question _ hQuestion ih

theorem log
    (severity : Log.Severity)
    (message : String) :
    Confined allowed
      (Inquiry.log severity message : Inquiry V Unit) := by
  apply Confined.heed
  intro level
  split
  · exact .note _ _ (.done ())
  · exact .done ()

/- Every question of a run is allowed. -/
theorem questions
    {σ : Type}
    {x : Inquiry V α}
    (hConfined : Confined allowed x)
    (host : Host V σ)
    (level : Log.Level)
    (state : σ) :
    ∀ question ∈ (x.run host level state).questions,
      allowed question := by
  induction hConfined generalizing state with
  | done value =>
      intro question hMember
      simp [run, Run.questions] at hMember
  | note record next hNext ih => exact ih state
  | heed next hNext ih => exact ih level state
  | ask asked next hAsked hNext ih =>
      intro question hMember
      simp only [run, Run.questions, Run.withExchange,
        List.map_cons, List.mem_cons] at hMember
      rcases hMember with hFirst | hLater
      · rw [hFirst]
        exact hAsked
      · exact ih _ _ question hLater

end Confined

end Inquiry

end CallDiagnosis

------------------------------------------------------------
-- States that Answer Alike
------------------------------------------------------------

namespace CallDiagnosis

namespace Host

variable {V : Vocabulary}
variable {σ : Type}

/-
  From states that are the same in a certain way, allowed
  questions are answered alike and lead to such states again.
-/
structure Alike
    (host : Host V σ)
    (allowed : V.Question → Prop)
    (same : σ → σ → Prop) :
    Prop where
  answer :
    ∀ question state other, allowed question →
      same state other →
      (host.answer question state).1 =
        (host.answer question other).1
  state :
    ∀ question state other, allowed question →
      same state other →
      same (host.answer question state).2
        (host.answer question other).2

end Host

namespace Inquiry

variable {V : Vocabulary}
variable {σ α : Type}
variable {host : Host V σ}
variable {allowed : V.Question → Prop}
variable {same : σ → σ → Prop}

/-
  A confined inquiry finds and asks the same from two states
  that answer its questions alike.
-/
theorem Confined.run_congr
    {x : Inquiry V α}
    (hConfined : Confined allowed x)
    (hAlike : host.Alike allowed same)
    (level : Log.Level)
    (state other : σ)
    (hSame : same state other) :
    (x.run host level state).value =
        (x.run host level other).value ∧
      (x.run host level state).exchanges =
        (x.run host level other).exchanges := by
  induction hConfined generalizing state other with
  | done value => exact ⟨rfl, rfl⟩
  | note record next hNext ih => exact ih state other hSame
  | heed next hNext ih => exact ih level state other hSame
  | ask question next hQuestion hNext ih =>
      have hAnswer :=
        hAlike.answer question state other hQuestion hSame
      have hLater :=
        ih (host.answer question other).1
          (host.answer question state).2
          (host.answer question other).2
          (hAlike.state question state other hQuestion hSame)
      simp only [run, Run.withExchange, hAnswer]
      exact ⟨hLater.1, congrArg _ hLater.2⟩

end Inquiry

end CallDiagnosis
