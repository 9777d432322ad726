import CallDiagnosis.Log.Record

/-
  Computations that ask questions.

  Key definitions include:
    * `CallDiagnosis.Vocabulary`
    * `CallDiagnosis.Inquiry`
    * `CallDiagnosis.Inquiry.bind`
    * `CallDiagnosis.Inquiry.log`
    * `CallDiagnosis.Inquiry.rephrase`

  Key theorems include:
    * `CallDiagnosis.Inquiry.bind_done`
    * `CallDiagnosis.Inquiry.bind_assoc`

  Whoever explains a failed call has to look at things that
  it does not own: files, limits, pending signals.  An
  inquiry is such an explanation with every look written
  down as a question.  It is a tree: it ends with a value,
  hands a note to the log, goes on as the level of the log
  has it, or asks a question and goes on with the answer.
  Nothing is asked except by a question, so two equal
  inquiries make the same calls in every world.
-/

------------------------------------------------------------
-- Inquiries
------------------------------------------------------------

namespace CallDiagnosis

/- Questions, each with the type of its answers. -/
structure Vocabulary where
  Question : Type
  Answer : Question → Type

/-
  A computation that asks questions and leaves notes.  It can
  read the level of the log, and could do anything about it.
-/
inductive Inquiry
    (V : Vocabulary)
    (α : Type) : Type where
| done (value : α)
| note
    (record : Log.Record)
    (next : Inquiry V α)
| heed (next : Log.Level → Inquiry V α)
| ask
    (question : V.Question)
    (next : V.Answer question → Inquiry V α)

end CallDiagnosis

------------------------------------------------------------
-- Sequencing
------------------------------------------------------------

namespace CallDiagnosis

namespace Inquiry

variable {V W : Vocabulary}
variable {α β γ : Type}

/- Go on with another inquiry once a value is found. -/
def bind
    (x : Inquiry V α)
    (f : α → Inquiry V β) :
    Inquiry V β :=
  match x with
  | .done value => f value
  | .note record next => .note record (next.bind f)
  | .heed next => .heed (fun level => (next level).bind f)
  | .ask question next =>
      .ask question (fun answer => (next answer).bind f)

instance : Monad (Inquiry V) where
  pure := .done
  bind := bind

/-
  Hand a record to the log if the level admits it, and go on.
  A record that is not admitted is not even made.
-/
def noted
    (record : Log.Record)
    (next : Inquiry V α) :
    Inquiry V α :=
  .heed (fun level =>
    if level.Admits record.severity then
      .note record next
    else
      next)

/- Leave a note of the library's own in the log. -/
def log
    (severity : Log.Severity)
    (message : String) :
    Inquiry V Unit :=
  noted ⟨severity, Log.target, message⟩ (.done ())

/- Ask each question in other words. -/
def rephrase
    (restate :
      (question : V.Question) →
        Inquiry W (V.Answer question)) :
    Inquiry V α → Inquiry W α
| .done value => .done value
| .note record next => .note record (next.rephrase restate)
| .heed next =>
    .heed (fun level => (next level).rephrase restate)
| .ask question next =>
    (restate question).bind
      (fun answer => (next answer).rephrase restate)

/- A value is handed on as it is. -/
theorem bind_done
    (value : α)
    (f : α → Inquiry V β) :
    (done value).bind f = f value :=
  rfl

/- A note stays where it is when an inquiry goes on. -/
theorem bind_noted
    (record : Log.Record)
    (next : Inquiry V α)
    (f : α → Inquiry V β) :
    (noted record next).bind f =
      noted record (next.bind f) := by
  simp only [noted, bind]
  congr 1
  funext level
  by_cases hAdmits : level.Admits record.severity
  · simp only [hAdmits, if_true, bind]
  · simp only [hAdmits, if_false]

/- It also stays if the questions are asked in other words. -/
theorem rephrase_noted
    (restate :
      (question : V.Question) →
        Inquiry W (V.Answer question))
    (record : Log.Record)
    (next : Inquiry V α) :
    (noted record next).rephrase restate =
      noted record (next.rephrase restate) := by
  simp only [noted, rephrase]
  congr 1
  funext level
  by_cases hAdmits : level.Admits record.severity
  · simp only [hAdmits, if_true, rephrase]
  · simp only [hAdmits, if_false]

/- Sequencing does not depend on the grouping. -/
theorem bind_assoc
    (x : Inquiry V α)
    (f : α → Inquiry V β)
    (g : β → Inquiry V γ) :
    (x.bind f).bind g = x.bind (fun a => (f a).bind g) := by
  induction x with
  | done value => rfl
  | note record next ih =>
      simp only [bind, ih]
  | heed next ih =>
      simp only [bind, ih]
  | ask question next ih =>
      simp only [bind, ih]

end Inquiry

end CallDiagnosis
