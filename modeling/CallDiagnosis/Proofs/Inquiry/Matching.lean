import CallDiagnosis.Proofs.Inquiry.Sequencing

/-
  Inquiries that go side by side.

  Key definitions include:
    * `CallDiagnosis.Inquiry.Matched`

  Key theorems include:
    * `CallDiagnosis.Inquiry.Matched.bind`
    * `CallDiagnosis.Inquiry.Matched.run`

  Two inquiries match if they ask the same questions and leave
  the same notes, whatever they are answered, and only the
  values with which they end may differ, in a certain way.
  Their runs from one state then make the same exchanges, and
  what they find differs in that way at most.
-/

namespace CallDiagnosis

namespace Inquiry

variable {V : Vocabulary}
variable {α β γ δ : Type}

/-
  Whatever they are answered, two inquiries do the same and
  end with related values.
-/
inductive Matched
    (related : α → β → Prop) :
    Inquiry V α → Inquiry V β → Prop where
| done
    (value : α)
    (other : β)
    (hRelated : related value other) :
    Matched related (.done value) (.done other)
| note
    (record : Log.Record)
    (next : Inquiry V α)
    (other : Inquiry V β)
    (hNext : Matched related next other) :
    Matched related (.note record next) (.note record other)
| heed
    (next : Log.Level → Inquiry V α)
    (other : Log.Level → Inquiry V β)
    (hNext :
      ∀ level, Matched related (next level) (other level)) :
    Matched related (.heed next) (.heed other)
| ask
    (question : V.Question)
    (next : V.Answer question → Inquiry V α)
    (other : V.Answer question → Inquiry V β)
    (hNext :
      ∀ answer, Matched related (next answer) (other answer)) :
    Matched related (.ask question next) (.ask question other)

namespace Matched

variable {related : α → β → Prop}

/- Every inquiry matches itself. -/
theorem self
    (x : Inquiry V α) :
    Matched Eq x x := by
  induction x with
  | done value => exact .done value value rfl
  | note record next ih => exact .note record next next ih
  | heed next ih => exact .heed next next ih
  | ask question next ih =>
      exact .ask question next next ih

/- Sequences match if both of their parts do. -/
theorem bind
    {later : γ → δ → Prop}
    {x : Inquiry V α}
    {y : Inquiry V β}
    {f : α → Inquiry V γ}
    {g : β → Inquiry V δ}
    (hFirst : Matched related x y)
    (hSecond :
      ∀ value other, related value other →
        Matched later (f value) (g other)) :
    Matched later (x >>= f) (y >>= g) := by
  change Matched later (x.bind f) (y.bind g)
  induction hFirst with
  | done value other hRelated =>
      exact hSecond value other hRelated
  | note record next other hNext ih =>
      exact .note record _ _ ih
  | heed next other hNext ih =>
      exact .heed _ _ ih
  | ask question next other hNext ih =>
      exact .ask question _ _ ih

/- They match, too, if they only differ after a common part. -/
theorem after
    {later : γ → δ → Prop}
    (x : Inquiry V α)
    {f : α → Inquiry V γ}
    {g : α → Inquiry V δ}
    (hSecond : ∀ value, Matched later (f value) (g value)) :
    Matched later (x >>= f) (x >>= g) := by
  apply (self x).bind
  rintro value _ rfl
  exact hSecond value

/- Runs of inquiries that match differ in their values only. -/
theorem run
    {σ : Type}
    {x : Inquiry V α}
    {y : Inquiry V β}
    (hMatched : Matched related x y)
    (host : Host V σ)
    (level : Log.Level)
    (state : σ) :
    related (x.run host level state).value
        (y.run host level state).value ∧
      (x.run host level state).exchanges =
        (y.run host level state).exchanges := by
  induction hMatched generalizing state with
  | done value other hRelated => exact ⟨hRelated, rfl⟩
  | note record next other hNext ih => exact ih state
  | heed next other hNext ih => exact ih level state
  | ask question next other hNext ih =>
      rcases ih (host.answer question state).1
          (host.answer question state).2 with
        ⟨hRelated, hExchanges⟩
      exact ⟨hRelated, congrArg _ hExchanges⟩

end Matched

end Inquiry

end CallDiagnosis
