import CallDiagnosis.Log.Backend
import CallDiagnosis.Proofs.Inquiry.Sequencing

/-
  What the level of the log changes about a run.

  Key definitions include:
    * `CallDiagnosis.Inquiry.Unswayed`
    * `CallDiagnosis.Log.Backend.delivered`
    * `CallDiagnosis.Inquiry.Oblivious`

  Key theorems include:
    * `CallDiagnosis.Inquiry.Unswayed.bind`
    * `CallDiagnosis.Inquiry.Unswayed.run_level`
    * `CallDiagnosis.Inquiry.Unswayed.oblivious`
    * `CallDiagnosis.Inquiry.not_oblivious_heed`

  An inquiry can read the level of the log and act on it, so
  a log can change what an inquiry finds.  It does not if the
  level decides on single notes and on nothing else.  A run at
  any level is then the run without a log, and its notes are
  those of the full level, as far as the level admits them.
-/

------------------------------------------------------------
-- Levels
------------------------------------------------------------

namespace CallDiagnosis

namespace Log

namespace Level

/- The level that lets every record through. -/
def full : Level :=
  .upTo .trace

theorem admits_full
    (severity : Severity) :
    full.Admits severity := by
  cases severity <;> decide

theorem not_admits_off
    (severity : Severity) :
    ¬ off.Admits severity := by
  cases severity <;> decide

end Level

end Log

end CallDiagnosis

------------------------------------------------------------
-- Inquiries that the Level Does Not Sway
------------------------------------------------------------

namespace CallDiagnosis

namespace Inquiry

variable {V W : Vocabulary}
variable {α β : Type}

/-
  Whatever it is answered, an inquiry reads the level of the
  log only to make a note or not to make it.
-/
inductive Unswayed :
    Inquiry V α → Prop where
| done
    (value : α) :
    Unswayed (.done value)
| noted
    (record : Log.Record)
    (next : Inquiry V α)
    (hNext : Unswayed next) :
    Unswayed (noted record next)
| ask
    (question : V.Question)
    (next : V.Answer question → Inquiry V α)
    (hNext : ∀ answer, Unswayed (next answer)) :
    Unswayed (.ask question next)

namespace Unswayed

/- A value that is there already needs no level. -/
theorem pure
    (value : α) :
    Unswayed (Pure.pure value : Inquiry V α) :=
  .done value

/- Nor does a single question. -/
theorem question
    (question : V.Question) :
    Unswayed (.ask question .done : Inquiry V _) := by
  apply Unswayed.ask
  intro answer
  exact .done answer

/- A single note is all that the level decides on. -/
theorem log
    (severity : Log.Severity)
    (message : String) :
    Unswayed
      (Inquiry.log severity message : Inquiry V Unit) := by
  apply Unswayed.noted ⟨severity, Log.target, message⟩
  exact .done ()

/- A choice is not swayed if neither of its ways is. -/
theorem ite
    {x y : Inquiry V α}
    {condition : Prop}
    [Decidable condition]
    (hThen : Unswayed x)
    (hElse : Unswayed y) :
    Unswayed (if condition then x else y) := by
  split
  · exact hThen
  · exact hElse

/- A sequence is not swayed if neither of its parts is. -/
theorem bind
    {x : Inquiry V α}
    {f : α → Inquiry V β}
    (hFirst : Unswayed x)
    (hSecond : ∀ value, Unswayed (f value)) :
    Unswayed (x >>= f) := by
  change Unswayed (x.bind f)
  induction hFirst with
  | done value => exact hSecond value
  | noted record next hNext ih =>
      rw [bind_noted]
      exact .noted record _ ih
  | ask question next hNext ih => exact .ask question _ ih

/- What is found can be handed on in another form. -/
theorem map
    {x : Inquiry V α}
    (hFirst : Unswayed x)
    (f : α → β) :
    Unswayed (x >>= fun value => Pure.pure (f value)) := by
  apply hFirst.bind
  intro value
  exact .pure _

/- So can a value that comes with a note. -/
theorem log_pure
    (severity : Log.Severity)
    (message : String)
    (value : α) :
    Unswayed
      (Inquiry.log severity message >>= fun _ =>
        (Pure.pure value : Inquiry V α)) :=
  (log severity message).map fun _ => value

/- Questions in other words change nothing about the notes. -/
theorem rephrase
    {x : Inquiry V α}
    (hUnswayed : Unswayed x)
    (restate :
      (question : V.Question) →
        Inquiry W (V.Answer question))
    (hRestate : ∀ question, Unswayed (restate question)) :
    Unswayed (x.rephrase restate) := by
  induction hUnswayed with
  | done value => exact .done value
  | noted record next hNext ih =>
      rw [rephrase_noted]
      exact .noted record _ ih
  | ask question next hNext ih =>
      exact (hRestate question).bind ih

section Runs

variable {σ : Type}
variable (host : Host V σ)
variable (state : σ)

/- The level of the log decides on the notes and nothing else. -/
theorem run_level
    {x : Inquiry V α}
    (hUnswayed : Unswayed x)
    (level : Log.Level) :
    x.run host level state =
      { x.run host .off state with
        records :=
          (x.run host .full state).records.filter
            fun r => level.Admits r.severity } := by
  induction hUnswayed generalizing state with
  | done value => rfl
  | noted record next hNext ih =>
      -- The run without a log leaves the note out and the full
      -- run keeps it; what is left to the level is this note.
      have hFull := Log.Level.admits_full record.severity
      have hOff := Log.Level.not_admits_off record.severity
      simp only [run_noted, hFull, hOff, if_true, if_false,
        ih state]
      by_cases hAdmits : level.Admits record.severity
      · simp [hAdmits]
      · simp [hAdmits]
  | ask question next hNext ih =>
      simp only [Inquiry.run, Run.withExchange, ih]

end Runs

end Unswayed

end Inquiry

end CallDiagnosis

------------------------------------------------------------
-- Records that are Delivered
------------------------------------------------------------

namespace CallDiagnosis

namespace Log

namespace Backend

/- The records that reach somebody, in their order. -/
def delivered
    (b : Backend)
    (rs : List Record) :
    List Record :=
  rs.filter fun r => (b.deliver? r).isSome

/- Whoever is reached by a record makes a delivery of it. -/
theorem deliveries_eq
    (b : Backend)
    (rs : List Record) :
    b.deliveries rs =
      (b.delivered rs).filterMap b.sink.deliver? := by
  induction rs with
  | nil => rfl
  | cons r rs ih =>
      unfold deliveries delivered at ih ⊢
      by_cases hPasses : b.Passes r
      · cases hSink : b.sink.deliver? r with
        | none => simp [deliver?, hPasses, hSink, ih]
        | some delivery =>
            simp [deliver?, hPasses, hSink, ih]
      · simp [deliver?, hPasses, ih]

/- A backend that holds one level in both places. -/
def leveled
    (level : Level)
    (sink : Sink) :
    Backend :=
  ⟨level, level, sink⟩

/-
  Of the notes that a level admits, those are delivered that
  the full level delivers and that are within the level.
-/
theorem delivered_leveled
    (level : Level)
    (sink : Sink)
    (rs : List Record) :
    (leveled level sink).delivered
        (rs.filter fun r => level.Admits r.severity) =
      ((leveled .full sink).delivered rs).filter
        fun r => level.Admits r.severity := by
  unfold delivered
  rw [List.filter_filter, List.filter_filter]
  apply List.filter_congr
  intro r hMember
  have hFull := Level.admits_full r.severity
  by_cases hAdmits : level.Admits r.severity
  · simp [leveled, deliver?, Passes, hFull, hAdmits]
  · simp [hAdmits]

end Backend

end Log

end CallDiagnosis

------------------------------------------------------------
-- Inquiries that Do Not Mind the Log
------------------------------------------------------------

namespace CallDiagnosis

namespace Inquiry

variable {V : Vocabulary}
variable {σ α : Type}

/-
  What an inquiry finds, asks and leaves behind is the same at
  a level as without a log, and whoever gets the records gets
  those of the full level that are within the level.
-/
structure Oblivious
    (x : Inquiry V α)
    (host : Host V σ)
    (start : σ)
    (level : Log.Level)
    (sink : Log.Sink) :
    Prop where
  value :
    (x.run host level start).value =
      (x.run host .off start).value
  state :
    (x.run host level start).state =
      (x.run host .off start).state
  exchanges :
    (x.run host level start).exchanges =
      (x.run host .off start).exchanges
  delivered :
    (Log.Backend.leveled level sink).delivered
        (x.run host level start).records =
      ((Log.Backend.leveled .full sink).delivered
        (x.run host .full start).records).filter
          fun r => r.severity.rank ≤ level.rank
  deliveries :
    (Log.Backend.leveled level sink).deliveries
        (x.run host level start).records =
      ((Log.Backend.leveled level sink).delivered
        (x.run host level start).records).filterMap
          sink.deliver?

/- What the level does not sway does not mind the log. -/
theorem Unswayed.oblivious
    {x : Inquiry V α}
    (hUnswayed : Unswayed x)
    (host : Host V σ)
    (state : σ)
    (level : Log.Level)
    (sink : Log.Sink) :
    x.Oblivious host state level sink := by
  have hLevel := hUnswayed.run_level host state level
  refine ⟨?_, ?_, ?_, ?_, ?_⟩
  · rw [hLevel]
  · rw [hLevel]
  · rw [hLevel]
  · rw [hLevel]
    exact Log.Backend.delivered_leveled level sink _
  · exact Log.Backend.deliveries_eq _ _

/-
  Not every inquiry is like that: one that asks only while
  somebody listens does mind the log.
-/
theorem not_oblivious_heed
    (host : Host V σ)
    (state : σ)
    (sink : Log.Sink)
    (question : V.Question) :
    ¬ (heed fun level =>
        if level = .off then
          done ()
        else
          ask question fun _ => done ()).Oblivious
      host state .full sink := by
  intro hOblivious
  have hExchanges := hOblivious.exchanges
  simp [run, Log.Level.full, Run.withExchange]
    at hExchanges

end Inquiry

end CallDiagnosis
