import CallDiagnosis.Proofs.Session.Unswayed

/-
  Sessions in a process that keeps changing its log.

  Key definitions include:
    * `CallDiagnosis.Move`
    * `CallDiagnosis.Session.conduct`
    * `CallDiagnosis.Session.notes`

  Key theorems include:
    * `CallDiagnosis.Session.conduct_eq`
    * `CallDiagnosis.Session.logging_never_interferes`

  Any operation could read the level of the log and behave
  differently while somebody listens.  None does: what it
  finds, asks and leaves behind is what it would be without a
  log.  So a host can turn its log up and down between any two
  requests to its session, and nothing comes of it but notes.
-/

------------------------------------------------------------
-- Moves of a Process
------------------------------------------------------------

namespace CallDiagnosis

/- What a process does: it controls its log, or it requests. -/
inductive Move where
| control (control : Log.Control)
| request (request : Request)
deriving DecidableEq

namespace Move

/- The requests among the moves of a process. -/
def requests :
    List Move → List Request
| [] => []
| .control _ :: rest => requests rest
| .request asked :: rest => asked :: requests rest

/- The ceilings under which the requests are carried out. -/
def ceilings
    (b : Log.Backend) :
    List Move → List Log.Level
| [] => []
| .control c :: rest => ceilings (b.control c).2 rest
| .request _ :: rest => b.ceiling :: ceilings b rest

end Move

namespace Session

variable {V R : Type}
variable [Viewpoint V]
variable [Registrar R]
variable {σ : Type}
variable (host : Host surroundings σ)

/-
  Make moves one after the other.  A request is carried out at
  the level that its process has by then.
-/
def conduct :
    List Move → Log.Backend → Session V R → σ →
      Run surroundings σ
        (List (Except Fault Reply) × Session V R)
| [], _, s, state => ⟨([], s), state, [], []⟩
| .control control :: rest, b, s, state =>
    conduct rest (b.control control).2 s state
| .request asked :: rest, b, s, state =>
    let first := (s.perform asked).run host b.ceiling state
    first.followedBy
      ((conduct rest b first.value.2 first.state).map
        fun done => (first.value.1 :: done.1, done.2))

/- All that there is to note about requests, one by one. -/
def notes :
    List Request → Session V R → σ → List (List Log.Record)
| [], _, _ => []
| asked :: rest, s, state =>
    let first := (s.perform asked).run host .full state
    first.records :: notes rest first.value.2 first.state

/- What levels admit of notes, each of its own notes. -/
def admitted
    (levels : List Log.Level)
    (notes : List (List Log.Record)) :
    List Log.Record :=
  (levels.zipWith
    (fun level noted =>
      noted.filter fun r => level.Admits r.severity)
    notes).flatten

/-
  Whatever a process does to its log, its requests come to
  what they come to without one, and of all that there is to
  note about them the ceilings admit their share.
-/
theorem conduct_eq
    (moves : List Move)
    (b : Log.Backend)
    (s : Session V R)
    (state : σ) :
    conduct host moves b s state =
      { (s.performAll (Move.requests moves)).run
          host .off state with
        records :=
          admitted (Move.ceilings b moves)
            (notes host (Move.requests moves) s state) } := by
  induction moves generalizing b s state with
  | nil => rfl
  | cons move rest ih =>
      cases move with
      | control control => exact ih _ s state
      | request asked =>
          -- Neither the ceiling nor the full level sways the
          -- request itself, so the rest starts where it starts
          -- without a log.
          have hUnswayed := s.unswayed_perform asked
          have hCeiling :=
            hUnswayed.run_level host state b.ceiling
          have hFull :=
            hUnswayed.oblivious host state .full b.sink
          simp only [conduct, Move.requests, Move.ceilings,
            notes, admitted, run_performAll_cons, ih, hCeiling,
            hFull.value, hFull.state, List.zipWith_cons_cons,
            List.flatten_cons]
          rfl

/-
  Nothing that can be asked of a session minds the log, be it
  one request, a row of them, or its end.  Nor does a walk, an
  explanation or a request to the limits that is made without
  a session, or what a host asks for in its own words.  It
  makes no difference if the kernel answers, nor how the log
  is controlled in between.  The registry of a session is part
  of what is left behind, and may be one that writes down all
  that it is asked.
-/
theorem logging_never_interferes
    {τ : Type}
    (kernel : Host Kernel.system τ)
    (start : τ)
    (state : σ)
    (level : Log.Level)
    (sink : Log.Sink)
    (s : Session V R) :
    (∀ request,
      (s.perform request).Oblivious host state level sink) ∧
    (∀ requests,
      (s.performAll requests).Oblivious
        host state level sink) ∧
    s.close.Oblivious host state level sink ∧
    (∀ c e path intent expected,
      (CallDiagnosis.walk c e path intent
        expected).Oblivious host state level sink) ∧
    (∀ explained c e call,
      (Explain.explainerFor explained c e call).Oblivious
        host state level sink) ∧
    (∀ (limits : LimitCache) request,
      (limits.perform request).Oblivious
        host state level sink) ∧
    (∀ directory memory handle command,
      (Boundary.perform directory memory handle
        command).Oblivious host state level sink) ∧
    (∀ requests,
      (Kernel.live (s.performAll requests)).Oblivious
        kernel start level sink) ∧
    ∀ moves b,
      conduct host moves b s state =
        { (s.performAll (Move.requests moves)).run
            host .off state with
          records :=
            admitted (Move.ceilings b moves)
              (notes host (Move.requests moves) s state) } := by
  refine ⟨?_, ?_, ?_, ?_, ?_, ?_, ?_, ?_, ?_⟩
  · intro request
    apply (s.unswayed_perform request).oblivious
  · intro requests
    apply (s.unswayed_performAll requests).oblivious
  · apply s.unswayed_close.oblivious
  · intro c e path intent expected
    apply (unswayed_walk c e path intent expected).oblivious
  · intro explained c e call
    have hUnswayed :=
      Explain.unswayed_explainerFor c e explained call
    apply hUnswayed.oblivious
  · intro limits request
    apply (limits.unswayed_perform request).oblivious
  · intro directory memory handle command
    have hUnswayed :=
      Boundary.unswayed_perform directory memory handle
        command
    apply hUnswayed.oblivious
  · intro requests
    have hUnswayed :=
      Kernel.unswayed_live (s.unswayed_performAll requests)
    apply hUnswayed.oblivious
  · intro moves b
    exact conduct_eq host moves b s state

end Session

end CallDiagnosis
