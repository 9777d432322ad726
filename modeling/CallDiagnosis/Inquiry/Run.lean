import CallDiagnosis.Inquiry.Basic

/-
  Inquiries run against a host.

  Key definitions include:
    * `CallDiagnosis.Host`
    * `CallDiagnosis.Exchange`
    * `CallDiagnosis.Run`
    * `CallDiagnosis.Inquiry.run`

  A host answers questions from a state of its own, so the
  same question may be answered differently the next time.
  A run takes place at a level of the log, and records every
  question with its answer, and every note, in order.
-/

------------------------------------------------------------
-- Hosts
------------------------------------------------------------

namespace CallDiagnosis

/- Whoever answers the questions of a vocabulary. -/
structure Host
    (V : Vocabulary)
    (σ : Type) where
  answer :
    (question : V.Question) → σ → V.Answer question × σ

/- A question together with the answer it got. -/
structure Exchange
    (V : Vocabulary) where
  question : V.Question
  answer : V.Answer question

/-
  The outcome of a run: the value found, the host's state
  afterwards, what was asked and answered, and what was
  logged.
-/
structure Run
    (V : Vocabulary)
    (σ α : Type) where
  value : α
  state : σ
  exchanges : List (Exchange V)
  records : List Log.Record

end CallDiagnosis

------------------------------------------------------------
-- Runs
------------------------------------------------------------

namespace CallDiagnosis

namespace Run

variable {V : Vocabulary}
variable {σ α : Type}

/- The questions of a run, in order. -/
def questions
    (r : Run V σ α) :
    List V.Question :=
  r.exchanges.map Exchange.question

/- A run with a note left before it. -/
def withRecord
    (record : Log.Record)
    (r : Run V σ α) :
    Run V σ α :=
  { r with records := record :: r.records }

/- A run with an exchange made before it. -/
def withExchange
    (exchange : Exchange V)
    (r : Run V σ α) :
    Run V σ α :=
  { r with exchanges := exchange :: r.exchanges }

end Run

namespace Inquiry

variable {V : Vocabulary}
variable {σ α : Type}

/- Run an inquiry against a host in a given state. -/
def run
    (host : Host V σ)
    (level : Log.Level) :
    Inquiry V α → σ → Run V σ α
| .done value, state => ⟨value, state, [], []⟩
| .note record next, state =>
    (run host level next state).withRecord record
| .heed next, state => run host level (next level) state
| .ask question next, state =>
    let reply := host.answer question state
    (run host level (next reply.1) reply.2).withExchange
      ⟨question, reply.1⟩

end Inquiry

end CallDiagnosis
