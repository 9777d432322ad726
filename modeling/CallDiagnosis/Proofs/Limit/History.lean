import CallDiagnosis.Proofs.Limit.Capture

/-
  The history of a cache of limits.

  Key definitions include:
    * `CallDiagnosis.Deed`
    * `CallDiagnosis.LimitCache.History`
    * `CallDiagnosis.LimitCache.inForce?`
    * `CallDiagnosis.LimitCache.Honours`

  Key theorems include:
    * `CallDiagnosis.LimitCache.snapshot_replay`
    * `CallDiagnosis.LimitCache.History.honours`

  A capture is in force if it is the first one at a path since
  the cache was made or last reset.  Whatever else was asked
  of a cache, and however the host changed in between, the
  cache holds what was reported for the capture in force.
-/

------------------------------------------------------------
-- Histories
------------------------------------------------------------

namespace CallDiagnosis

/- A request, and the exchanges made to carry it out. -/
structure Deed
    (Q : Type) where
  request : Q
  exchanges : List (Exchange surroundings)

namespace LimitCache

/-
  The histories of a cache that starts with nothing captured,
  the latest deed first.  Each request may be carried out
  against another host.
-/
inductive History :
    List (Deed LimitRequest) → LimitCache → Prop where
| new :
    History [] empty
| step
    {deeds : List (Deed LimitRequest)}
    {cache : LimitCache}
    {σ : Type}
    (host : Host surroundings σ)
    (level : Log.Level)
    (state : σ)
    (request : LimitRequest)
    (hPast : History deeds cache) :
    History
      (⟨request,
        ((cache.perform request).run
          host level state).exchanges⟩ :: deeds)
      ((cache.perform request).run host level state).value.2

/- The cache that a list of deeds leads to. -/
def replay :
    List (Deed LimitRequest) → LimitCache
| [] => empty
| deed :: deeds =>
    (replay deeds).next deed.exchanges deed.request

/- A history leads to the cache that its deeds lead to. -/
theorem History.eq_replay
    {deeds : List (Deed LimitRequest)}
    {cache : LimitCache}
    (hHistory : History deeds cache) :
    cache = replay deeds := by
  induction hHistory with
  | new => rfl
  | step host level state request hPast ih =>
      rw [perform_next, ih]
      rfl

end LimitCache

end CallDiagnosis

------------------------------------------------------------
-- Captures in Force
------------------------------------------------------------

namespace CallDiagnosis

namespace LimitCache

/- The capture that a deed is, if it is one at a path. -/
def capture? :
    Deed LimitRequest → Option Capture
| ⟨.capture path, exchanges⟩ =>
    if path = "" then none else some ⟨path, exchanges⟩
| _ => none

/- The deeds since the last reset, the latest one first. -/
def sinceReset
    (deeds : List (Deed LimitRequest)) :
    List (Deed LimitRequest) :=
  deeds.takeWhile fun deed => deed.request ≠ .reset

/- The first capture at a path since the last reset. -/
def inForce?
    (deeds : List (Deed LimitRequest)) :
    Option Capture :=
  (sinceReset deeds).reverse.findSome? capture?

/- After a reset no capture is in force. -/
@[simp] theorem inForce?_reset
    (exchanges : List (Exchange surroundings))
    (deeds : List (Deed LimitRequest)) :
    inForce? (⟨.reset, exchanges⟩ :: deeds) = none := by
  simp [inForce?, sinceReset]

/- A capture comes into force only where none is. -/
theorem inForce?_cons
    (deed : Deed LimitRequest)
    (deeds : List (Deed LimitRequest))
    (hDeed : deed.request ≠ .reset) :
    inForce? (deed :: deeds) =
      (inForce? deeds).or (capture? deed) := by
  have hSince :
      sinceReset (deed :: deeds) =
        deed :: sinceReset deeds := by
    simp [sinceReset, hDeed]
  rw [inForce?, hSince, List.reverse_cons,
    List.findSome?_append]
  simp [inForce?]

/- A capture is held only where nothing is held yet. -/
theorem snapshot_next
    (cache : LimitCache)
    (deed : Deed LimitRequest)
    (hDeed : deed.request ≠ .reset) :
    (cache.next deed.exchanges deed.request).snapshot =
      cache.snapshot.or
        ((capture? deed).map Capture.snapshot) := by
  rcases deed with ⟨request, exchanges⟩
  cases request with
  | reset => exact absurd rfl hDeed
  | capture path =>
      by_cases hPath : path = ""
      · simp [next, capture?, hPath]
      · cases hSnapshot : cache.snapshot with
        | none =>
            simp [next, captured, capture?, hPath, hSnapshot]
        | some snapshot =>
            simp [next, captured, hPath, hSnapshot]
  | nameMax path => simp [next, capture?]
  | pathMax path => simp [next, capture?]
  | noTruncation path => simp [next, capture?]
  | systemLimit limit => simp [next, capture?]

/- A cache holds what was reported for the capture in force. -/
theorem snapshot_replay
    (deeds : List (Deed LimitRequest)) :
    (replay deeds).snapshot =
      (inForce? deeds).map Capture.snapshot := by
  induction deeds with
  | nil => rfl
  | cons deed deeds ih =>
      -- Only a reset can end what an earlier capture put in
      -- force, so it is the one request to be set apart.
      by_cases hDeed : deed.request = .reset
      · rcases deed with ⟨request, exchanges⟩
        obtain rfl : request = .reset := hDeed
        simp [replay, next, empty]
      · rw [replay, snapshot_next _ _ hDeed, ih,
          inForce?_cons _ _ hDeed, Option.map_or]

end LimitCache

end CallDiagnosis

------------------------------------------------------------
-- What a Cache Owes to a Capture
------------------------------------------------------------

namespace CallDiagnosis

namespace LimitCache

/-
  What a cache owes to the capture in force, whichever host
  is there to be asked.  A positive value of the capture is
  told at every path, and nobody is asked.  Otherwise the
  host is asked once, and its answer is told.
-/
structure Honours
    {σ : Type}
    (host : Host surroundings σ)
    (level : Log.Level)
    (state : σ)
    (cache : LimitCache)
    (force : Option Capture) :
    Prop where
  captured :
    cache.captured = true ↔ ∃ c, force = some c
  held :
    ∀ c limit value path,
      path ≠ "" → force = some c →
      c.reported? limit = some value → 0 < value →
        (cache.perform (.query limit path)).run
            host level state =
          ⟨(.ok (.told limit value), cache), state, [], []⟩
  live :
    ∀ limit path,
      path ≠ "" →
      (∀ c value, force = some c →
        c.reported? limit = some value → ¬ 0 < value) →
        (cache.perform (.query limit path)).run
            host level state =
          ⟨((host.answer (.pathLimit limit path) state).1.map
              (.told limit), cache),
            (host.answer (.pathLimit limit path) state).2,
            [⟨.pathLimit limit path,
              (host.answer (.pathLimit limit path) state).1⟩],
            []⟩
  first :
    ∀ path,
      path ≠ "" → force = none →
        ((cache.perform (.capture path)).run
            host level state).value.1 =
          .ok (.verdict true) ∧
        ((cache.perform (.capture path)).run
            host level state).questions =
          [.pathLimit .nameMax path, .pathLimit .noTrunc path,
            .pathLimit .pathMax path]
  again :
    ∀ c path,
      path ≠ "" → force = some c →
        ((cache.perform (.capture path)).run
            host level state).value =
          (.ok (.verdict false), cache) ∧
        ((cache.perform (.capture path)).run
            host level state).state = state ∧
        ((cache.perform (.capture path)).run
            host level state).exchanges = []
  unnamed :
    ∀ request,
      request ∈ [LimitRequest.nameMax "", .pathMax "",
        .noTruncation "", .capture ""] →
        (cache.perform request).run host level state =
          ⟨(.error (.invalidArgument .path), cache), state,
            [], []⟩

section Debts

variable {cache : LimitCache}
variable {force : Option Capture}

/- Only a positive value of the capture in force is held. -/
theorem held?_of_snapshot
    (hSnapshot :
      cache.snapshot = force.map Capture.snapshot)
    (limit : PathLimit) :
    cache.held? limit =
      (force.bind (·.reported? limit)).filter (0 < ·) := by
  unfold held?
  rw [hSnapshot]
  cases force with
  | none => rfl
  | some c => simp

variable {σ : Type}
variable (host : Host surroundings σ)
variable (level : Log.Level)
variable (state : σ)

/- A cache that holds what was reported owes nothing more. -/
theorem honours_of_snapshot
    (hSnapshot :
      cache.snapshot = force.map Capture.snapshot) :
    Honours host level state cache force := by
  have hCaptured :
      cache.captured = true ↔ ∃ c, force = some c := by
    unfold LimitCache.captured
    rw [hSnapshot]
    cases force with
    | none => simp
    | some c => simp
  refine ⟨hCaptured, ?_, ?_, ?_, ?_, ?_⟩
  · intro c limit value path hPath hForce hReported hPositive
    have hHeld : cache.held? limit = some value := by
      rw [held?_of_snapshot hSnapshot]
      simp [hForce, hReported, hPositive]
    exact run_query_held host level state cache limit path
      value hPath hHeld
  · intro limit path hPath hUnusable
    have hHeld : cache.held? limit = none := by
      rw [held?_of_snapshot hSnapshot,
        Option.filter_eq_none_iff]
      intro value hReported
      rcases Option.bind_eq_some_iff.1 hReported with
        ⟨c, hForce, hValue⟩
      simpa using hUnusable c value hForce hValue
    exact run_query_live host level state cache limit path
      hPath hHeld
  · intro path hPath hForce
    have hFirst : cache.captured = false := by
      simpa [hForce] using hCaptured
    have hValue :=
      value_capture host level state cache path hPath hFirst
    have hQuestions :=
      questions_capture host level state cache path hPath
        hFirst
    simpa [perform, hValue, Run.questions, Except.map]
      using hQuestions
  · intro c path hPath hForce
    have hAgain : cache.captured = true :=
      hCaptured.2 ⟨c, hForce⟩
    simp [perform, capture, hPath, hAgain, Except.map]
  · intro request hRequest
    simp only [List.mem_cons, List.not_mem_nil, or_false]
      at hRequest
    rcases hRequest with rfl | rfl | rfl | rfl
    · exact run_query_empty host level state cache .nameMax
    · exact run_query_empty host level state cache .pathMax
    · exact run_query_empty host level state cache .noTrunc
    · exact run_capture_empty host level state cache

/- A cache honours the capture that its history puts in force. -/
theorem History.honours
    {deeds : List (Deed LimitRequest)}
    (hHistory : History deeds cache) :
    Honours host level state cache (inForce? deeds) := by
  apply honours_of_snapshot
  rw [hHistory.eq_replay]
  exact snapshot_replay deeds

end Debts

end LimitCache

end CallDiagnosis
