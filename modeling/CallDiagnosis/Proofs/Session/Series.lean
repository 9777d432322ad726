import CallDiagnosis.Proofs.Inquiry.Sequencing
import CallDiagnosis.Session.Request

/-
  Requests that are carried out in a row.

  Key definitions include:
    * `CallDiagnosis.Run.map`
    * `CallDiagnosis.Session.performAll`

  Key theorems include:
    * `CallDiagnosis.Session.run_performAll_cons`

  A row of requests is an inquiry again: it finds the replies
  in their order and the session that the last request left.
-/

------------------------------------------------------------
-- Requests in a Row
------------------------------------------------------------

namespace CallDiagnosis

namespace Run

variable {V : Vocabulary}
variable {σ α β : Type}

/- A run that found something else in the same way. -/
def map
    (f : α → β)
    (r : Run V σ α) :
    Run V σ β :=
  ⟨f r.value, r.state, r.exchanges, r.records⟩

@[simp] theorem map_value
    (f : α → β)
    (r : Run V σ α) :
    (r.map f).value = f r.value :=
  rfl

@[simp] theorem map_state
    (f : α → β)
    (r : Run V σ α) :
    (r.map f).state = r.state :=
  rfl

@[simp] theorem map_exchanges
    (f : α → β)
    (r : Run V σ α) :
    (r.map f).exchanges = r.exchanges :=
  rfl

@[simp] theorem map_records
    (f : α → β)
    (r : Run V σ α) :
    (r.map f).records = r.records :=
  rfl

end Run

namespace Session

variable {V R : Type}
variable [Viewpoint V]
variable [Registrar R]

/- Carry out requests one after the other. -/
def performAll
    (s : Session V R) :
    List Request →
      Consult (List (Except Fault Reply) × Session V R)
| [] => return ([], s)
| request :: rest => do
    let (reply, after) ← s.perform request
    let (replies, last) ← after.performAll rest
    return (reply :: replies, last)

section Runs

variable {σ : Type}
variable (host : Host surroundings σ)
variable (level : Log.Level)
variable (state : σ)
variable (s : Session V R)

@[simp] theorem run_performAll_nil :
    (s.performAll []).run host level state =
      ⟨([], s), state, [], []⟩ :=
  rfl

/- A single request is carried out as it is. -/
@[simp] theorem run_performAll_singleton
    (request : Request) :
    (s.performAll [request]).run host level state =
      ((s.perform request).run host level state).map
        (fun done => ([done.1], done.2)) := by
  simp [performAll, Run.map, Run.followedBy]

/- The first request of a row comes before all the others. -/
theorem run_performAll_cons
    (request : Request)
    (rest : List Request) :
    (s.performAll (request :: rest)).run host level state =
      ((s.perform request).run host level state).followedBy
        (((((s.perform request).run
            host level state).value.2.performAll rest).run
              host level
              ((s.perform request).run
                host level state).state).map
          (fun done =>
            (((s.perform request).run
              host level state).value.1 :: done.1,
              done.2))) := by
  simp [performAll, Run.map, Run.followedBy]

end Runs

end Session

end CallDiagnosis
