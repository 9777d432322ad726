import CallDiagnosis.Log.Backend

/-
  Where the records go after a history of controls.

  Key definitions include:
    * `CallDiagnosis.Log.Control.Accepted`
    * `CallDiagnosis.Log.Backend.replay`
    * `CallDiagnosis.Log.numberAfter`
    * `CallDiagnosis.Log.sinkAfter`

  Key theorems include:
    * `CallDiagnosis.Log.Backend.control_cases`
    * `CallDiagnosis.Log.Backend.replay_eq`
    * `CallDiagnosis.Log.Backend.backend_follows_accepted_controls`

  A backend keeps its level twice and its sink once, and the
  controls write them in different combinations.  What can be
  told of them from outside is simple: the level is the one
  that the last accepted control wanted, the sink is the one
  that the last accepted control with a sink chose, and both
  places agree on the level whatever was accepted or refused.
-/

------------------------------------------------------------
-- Numbers of Levels
------------------------------------------------------------

namespace CallDiagnosis

namespace Log

namespace Level

/- A number below zero or above five is no level. -/
theorem ofNumber?_eq_none
    (n : Int)
    (hOutside : ¬ (0 ≤ n ∧ n ≤ 5)) :
    ofNumber? n = none := by
  unfold ofNumber?
  split
  iterate 6 omega
  rfl

/- Any other number is the number of a level. -/
theorem exists_ofNumber?_eq_some
    (n : Int)
    (hLow : 0 ≤ n)
    (hHigh : n ≤ 5) :
    ∃ level, ofNumber? n = some level ∧
      (level.rank : Int) = n := by
  have hSix :
      n = 0 ∨ n = 1 ∨ n = 2 ∨ n = 3 ∨ n = 4 ∨ n = 5 := by
    omega
  rcases hSix with rfl | rfl | rfl | rfl | rfl | rfl
  all_goals exact ⟨_, rfl, rfl⟩

end Level

end Log

end CallDiagnosis

------------------------------------------------------------
-- Accepted Controls
------------------------------------------------------------

namespace CallDiagnosis

namespace Log

namespace Control

/- The number that a host gave for a level. -/
def number? :
    Control → Option Int32
| .toClient _ level => some level
| .toStandardError level => some level
| .setLevel level => some level
| .disable => none

/- A control is accepted if its number is that of a level. -/
def Accepted
    (c : Control) :
    Prop :=
  ∀ n ∈ c.number?, 0 ≤ n.toInt ∧ n.toInt ≤ 5

instance
    (c : Control) :
    Decidable c.Accepted :=
  inferInstanceAs
    (Decidable (∀ n ∈ c.number?, 0 ≤ n.toInt ∧ n.toInt ≤ 5))

/- Only the number that was given decides. -/
theorem accepted_iff
    {c : Control}
    {n : Int32}
    (hNumber : c.number? = some n) :
    c.Accepted ↔ 0 ≤ n.toInt ∧ n.toInt ≤ 5 := by
  simp [Accepted, hNumber]

/-
  The number of the level that a control wants.  To send
  records to a client that is missing is to want none.
-/
def wanted :
    Control → Int
| .toClient (some _) level => level.toInt
| .toClient none _ => 0
| .toStandardError level => level.toInt
| .setLevel level => level.toInt
| .disable => 0

/- The sink that a control chooses, if it chooses one. -/
def sink? :
    Control → Option Sink
| .toClient (some token) _ => some (.client token)
| .toClient none _ => some .nobody
| .toStandardError _ => some .standardError
| .setLevel _ => none
| .disable => some .nobody

end Control

namespace Backend

/- A number that is not a level leaves a backend as it was. -/
theorem change_of_outside
    (b : Backend)
    (n : Int32)
    (f : Level → Backend)
    (hOutside : ¬ (0 ≤ n.toInt ∧ n.toInt ≤ 5)) :
    b.change n f = (.invalidArgument, b) := by
  simp only [change, Level.ofNumber?_eq_none n.toInt hOutside]

/- A number that is a level is put to use. -/
theorem change_of_inside
    (b : Backend)
    (n : Int32)
    (f : Level → Backend)
    (hInside : 0 ≤ n.toInt ∧ n.toInt ≤ 5) :
    ∃ level : Level,
      (level.rank : Int) = n.toInt ∧
      b.change n f = (.ok, f level) := by
  rcases
      Level.exists_ofNumber?_eq_some n.toInt hInside.1
        hInside.2 with
    ⟨level, hLevel, hRank⟩
  refine ⟨level, hRank, ?_⟩
  simp only [change, hLevel]

/-
  All that a control can do.  If it is accepted, the level it
  wants stands in both places, and the sink is the one it
  chooses or else stays; if it is refused, nothing changes.
-/
theorem control_cases
    (b : Backend)
    (c : Control) :
    (c.Accepted ∧
      ∃ level : Level,
        (level.rank : Int) = c.wanted ∧
        b.control c =
          (.ok, ⟨level, level, c.sink?.getD b.sink⟩)) ∨
    (¬ c.Accepted ∧ b.control c = (.invalidArgument, b)) := by
  by_cases hAccepted : c.Accepted
  · refine .inl ⟨hAccepted, ?_⟩
    cases c with
    | toClient token n =>
        rcases
            b.change_of_inside n (b.withClient token)
              (hAccepted n rfl) with
          ⟨level, hRank, hChange⟩
        cases token with
        | some t => exact ⟨level, hRank, hChange⟩
        | none => exact ⟨.off, rfl, hChange⟩
    | toStandardError n =>
        exact
          b.change_of_inside n (b.withSink .standardError)
            (hAccepted n rfl)
    | setLevel n =>
        exact
          b.change_of_inside n b.withLevel (hAccepted n rfl)
    | disable => exact ⟨.off, rfl, rfl⟩
  · refine .inr ⟨hAccepted, ?_⟩
    have hOutside (n : Int32) (hNumber : c.number? = some n) :
        ¬ (0 ≤ n.toInt ∧ n.toInt ≤ 5) :=
      mt (Control.accepted_iff hNumber).2 hAccepted
    cases c with
    | toClient token n =>
        exact b.change_of_outside n _ (hOutside n rfl)
    | toStandardError n =>
        exact b.change_of_outside n _ (hOutside n rfl)
    | setLevel n =>
        exact b.change_of_outside n _ (hOutside n rfl)
    | disable =>
        exact absurd (fun n hNumber => by cases hNumber)
          hAccepted

end Backend

end Log

end CallDiagnosis

------------------------------------------------------------
-- Histories
------------------------------------------------------------

namespace CallDiagnosis

namespace Log

/- What happens to a backend: a control, or a record. -/
inductive Act where
| control (control : Control)
| emit (record : Record)
deriving DecidableEq

/- What comes of an act: an answer to the host, or deliveries. -/
inductive Outcome where
| answered (status : Status)
| delivered (deliveries : List Delivery)
deriving DecidableEq

namespace Backend

/- What comes of an act, and the backend after it. -/
def act
    (b : Backend) :
    Act → Outcome × Backend
| .control c =>
    let (status, after) := b.control c
    (.answered status, after)
| .emit r => (.delivered (b.deliveries [r]), b)

/- The backend after a history of acts, the latest act first. -/
def replay :
    List Act → Backend
| [] => disabled
| act :: acts => ((replay acts).act act).2

end Backend

/- The controls of a history that were accepted, in its order. -/
def accepted :
    List Act → List Control
| [] => []
| .control c :: acts =>
    if c.Accepted then c :: accepted acts else accepted acts
| .emit _ :: acts => accepted acts

/- The number that the last accepted control wanted. -/
def numberAfter
    (acts : List Act) :
    Int :=
  ((accepted acts).head?.map Control.wanted).getD 0

/- The sink that the last accepted control with one chose. -/
def sinkAfter
    (acts : List Act) :
    Sink :=
  ((accepted acts).findSome? Control.sink?).getD .nobody

/- What a sink that is given a record makes of it. -/
inductive Reaches :
    Sink → Record → List Delivery → Prop where
| nobody
    (r : Record) :
    Reaches .nobody r []
| standardError
    (r : Record) :
    Reaches .standardError r
      [.line s!"[explain][{r.severity.label}] {r.message}\n"]
| client
    (token : UInt64)
    (r : Record) :
    Reaches (.client token) r [.toClient token r]

namespace Backend

/-
  After any history both places hold the level that was wanted
  last, and the sink is the one that was chosen last.
-/
theorem replay_eq
    (acts : List Act) :
    ∃ level : Level,
      (level.rank : Int) = numberAfter acts ∧
      replay acts = ⟨level, level, sinkAfter acts⟩ := by
  induction acts with
  | nil => exact ⟨.off, rfl, rfl⟩
  | cons act acts ih =>
      cases act with
      | emit r => exact ih
      | control c =>
          rcases (replay acts).control_cases c with
            ⟨hAccepted, level, hRank, hControl⟩ |
            ⟨hRefused, hControl⟩
          · refine ⟨level, ?_, ?_⟩
            · simpa [numberAfter, accepted, hAccepted]
                using hRank
            · rcases ih with ⟨earlier, -, hEarlier⟩
              rw [replay, Backend.act, hControl, hEarlier]
              cases hSink : c.sink? with
              | some sink =>
                  simp [sinkAfter, accepted, hAccepted, hSink]
              | none =>
                  simp [sinkAfter, accepted, hAccepted, hSink]
          · rw [replay, Backend.act, hControl]
            simpa [numberAfter, sinkAfter, accepted, hRefused]
              using ih

/- A record passes one level twice as it passes it once. -/
theorem deliveries_singleton
    (level : Level)
    (sink : Sink)
    (r : Record) :
    (⟨level, level, sink⟩ : Backend).deliveries [r] =
      if r.severity.rank ≤ level.rank then
        (sink.deliver? r).toList
      else
        [] := by
  by_cases hPasses : r.severity.rank ≤ level.rank
  · cases hSink : sink.deliver? r <;>
      simp [deliveries, deliver?, Passes, Level.Admits, hPasses,
        hSink]
  · simp [deliveries, deliver?, Passes, Level.Admits, hPasses]

theorem reaches_deliver?
    (sink : Sink)
    (r : Record) :
    Reaches sink r (sink.deliver? r).toList := by
  cases sink with
  | nobody => exact .nobody r
  | standardError => exact .standardError r
  | client token => exact .client token r

/-
  After any history of controls and records, both levels are
  the one that the last accepted control wanted, and the sink
  is the one chosen last.  A control is answered by whether
  its number is that of a level, and without one it changes
  nothing; one that only sets the level leaves the sink alone.
  A record changes nothing and reaches the sink once if its
  severity is within the level, and nobody otherwise.
-/
theorem backend_follows_accepted_controls
    (acts : List Act) :
    (replay acts).ceiling = (replay acts).level ∧
    ((replay acts).level.rank : Int) = numberAfter acts ∧
    (replay acts).sink = sinkAfter acts ∧
    (∀ c : Control,
      (replay acts).act (.control c) =
        if c.Accepted then
          (.answered .ok, replay (.control c :: acts))
        else
          (.answered .invalidArgument, replay acts)) ∧
    (∀ n : Int32,
      ((replay acts).act (.control (.setLevel n))).2.sink =
        (replay acts).sink) ∧
    ∀ r : Record, ∃ reached,
      Reaches (sinkAfter acts) r reached ∧
      (replay acts).act (.emit r) =
        (.delivered
          (if (r.severity.rank : Int) ≤ numberAfter acts then
            reached
          else
            []),
          replay acts) := by
  rcases replay_eq acts with ⟨level, hRank, hReplay⟩
  refine ⟨by rw [hReplay], by rw [hReplay, hRank],
    by rw [hReplay], ?_, ?_, ?_⟩
  · intro c
    rcases (replay acts).control_cases c with
      ⟨hAccepted, wanted, -, hControl⟩ | ⟨hRefused, hControl⟩
    · simp [replay, act, hControl, hAccepted]
    · simp [act, hControl, hRefused]
  · intro n
    rcases (replay acts).control_cases (.setLevel n) with
      ⟨-, wanted, -, hControl⟩ | ⟨-, hControl⟩
    · rw [act, hControl]
      rfl
    · rw [act, hControl]
  · intro r
    refine ⟨_, reaches_deliver? (sinkAfter acts) r, ?_⟩
    rw [hReplay, act, deliveries_singleton, ← hRank]
    simp only [Int.ofNat_le]

/- Raising the level does not bring back a client. -/
example :
    (replay
        [.control (.setLevel 5), .control .disable,
          .control (.toClient (some 7) 3)]).act
        (.emit ⟨.error, "explain", "lost"⟩) =
      (.delivered [],
        ⟨.upTo .trace, .upTo .trace, .nobody⟩) := by
  decide

end Backend

end Log

end CallDiagnosis
