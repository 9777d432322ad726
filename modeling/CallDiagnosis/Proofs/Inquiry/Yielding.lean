import CallDiagnosis.Proofs.Inquiry.Sequencing

/-
  Inquiries that end with certain values.

  Key definitions include:
    * `CallDiagnosis.Inquiry.Yields`

  Key theorems include:
    * `CallDiagnosis.Inquiry.Yields.bind`
    * `CallDiagnosis.Inquiry.Yields.value`

  An inquiry yields values of a kind if it ends with no other
  one, whatever it is answered.  So does then every run of it,
  against every host and from every state.
-/

namespace CallDiagnosis

namespace Inquiry

variable {V : Vocabulary}
variable {α β : Type}

/- Whatever it is answered, it ends with such a value. -/
inductive Yields
    (expected : α → Prop) :
    Inquiry V α → Prop where
| done
    (value : α)
    (hValue : expected value) :
    Yields expected (.done value)
| note
    (record : Log.Record)
    (next : Inquiry V α)
    (hNext : Yields expected next) :
    Yields expected (.note record next)
| heed
    (next : Log.Level → Inquiry V α)
    (hNext : ∀ level, Yields expected (next level)) :
    Yields expected (.heed next)
| ask
    (question : V.Question)
    (next : V.Answer question → Inquiry V α)
    (hNext : ∀ answer, Yields expected (next answer)) :
    Yields expected (.ask question next)

namespace Yields

variable {expected : α → Prop}

/- Every inquiry ends with a value of some kind. -/
theorem anything
    (x : Inquiry V α) :
    Yields (fun _ => True) x := by
  induction x with
  | done value => exact .done value trivial
  | note record next ih => exact .note record next ih
  | heed next ih => exact .heed next ih
  | ask question next ih => exact .ask question next ih

/- A sequence ends with what its second part ends with. -/
theorem bind
    {later : β → Prop}
    {x : Inquiry V α}
    {f : α → Inquiry V β}
    (hFirst : Yields expected x)
    (hSecond :
      ∀ value, expected value → Yields later (f value)) :
    Yields later (x >>= f) := by
  change Yields later (x.bind f)
  induction hFirst with
  | done value hValue => exact hSecond value hValue
  | note record next hNext ih => exact .note record _ ih
  | heed next hNext ih => exact .heed _ ih
  | ask question next hNext ih => exact .ask question _ ih

/- It does so whatever its first part has found. -/
theorem after
    {later : β → Prop}
    (x : Inquiry V α)
    {f : α → Inquiry V β}
    (hSecond : ∀ value, Yields later (f value)) :
    Yields later (x >>= f) :=
  (anything x).bind (fun value _ => hSecond value)

/- What a run finds is such a value. -/
theorem value
    {σ : Type}
    {x : Inquiry V α}
    (hYields : Yields expected x)
    (host : Host V σ)
    (level : Log.Level)
    (state : σ) :
    expected (x.run host level state).value := by
  induction hYields generalizing state with
  | done value hValue => exact hValue
  | note record next hNext ih => exact ih state
  | heed next hNext ih => exact ih level state
  | ask question next hNext ih => exact ih _ _

end Yields

end Inquiry

end CallDiagnosis
