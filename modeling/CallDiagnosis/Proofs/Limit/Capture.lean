import CallDiagnosis.Limit.Request
import CallDiagnosis.Proofs.Inquiry.Sequencing

/-
  What requests do to a cache of limits.

  Key definitions include:
    * `CallDiagnosis.Capture`
    * `CallDiagnosis.LimitCache.next`

  Key theorems include:
    * `CallDiagnosis.LimitCache.perform_next`
    * `CallDiagnosis.LimitCache.run_query_held`
    * `CallDiagnosis.LimitCache.run_query_live`

  A capture is known by its path and by what was asked and
  answered for it.  From these alone follows what a cache
  holds after a request, so that later proofs need not look
  into the requests again.
-/

------------------------------------------------------------
-- Captures
------------------------------------------------------------

namespace CallDiagnosis

/- A path, and the exchanges made to capture limits at it. -/
structure Capture where
  path : String
  exchanges : List (Exchange surroundings)

/- The value that an exchange reports for a limit at a path. -/
def Exchange.reported?
    (limit : PathLimit)
    (path : String) :
    Exchange surroundings → Option Int64
| ⟨.pathLimit asked place, .ok value⟩ =>
    if asked = limit ∧ place = path then some value else none
| _ => none

namespace Capture

/- The value reported for a limit on the path of a capture. -/
def reported?
    (c : Capture)
    (limit : PathLimit) :
    Option Int64 :=
  c.exchanges.findSome? (Exchange.reported? limit c.path)

/- The limits as they were reported for a capture. -/
def snapshot
    (c : Capture) :
    LimitSnapshot :=
  ⟨c.reported? .nameMax, c.reported? .noTrunc,
    c.reported? .pathMax⟩

@[simp] theorem get?_snapshot
    (c : Capture)
    (limit : PathLimit) :
    c.snapshot.get? limit = c.reported? limit := by
  cases limit <;> rfl

end Capture

end CallDiagnosis

------------------------------------------------------------
-- The Cache after a Request
------------------------------------------------------------

namespace CallDiagnosis

namespace LimitCache

/- A cache after a request, from the exchanges made for it. -/
def next
    (cache : LimitCache)
    (exchanges : List (Exchange surroundings)) :
    LimitRequest → LimitCache
| .capture path =>
    if path = "" ∨ cache.captured = true then
      cache
    else
      ⟨some (Capture.snapshot ⟨path, exchanges⟩)⟩
| .reset => empty
| _ => cache

/- An exchange about a limit reports what its answer does. -/
@[simp] theorem reported?_exchange
    (limit asked : PathLimit)
    (path place : String)
    (answer : Except Fault Int64) :
    Exchange.reported? limit path
        ⟨.pathLimit asked place, answer⟩ =
      if asked = limit ∧ place = path then
        reported? answer
      else
        none := by
  cases answer with
  | error fault => simp [Exchange.reported?, reported?]
  | ok value => simp [Exchange.reported?, reported?]

section Runs

variable {σ : Type}
variable (host : Host surroundings σ)
variable (level : Log.Level)
variable (state : σ)

@[simp] theorem value_captureLimit
    (limit : PathLimit)
    (path : String) :
    ((captureLimit limit path).run host level state).value =
      reported?
        (host.answer (.pathLimit limit path) state).1 := by
  simp [captureLimit]

@[simp] theorem state_captureLimit
    (limit : PathLimit)
    (path : String) :
    ((captureLimit limit path).run host level state).state =
      (host.answer (.pathLimit limit path) state).2 := by
  simp [captureLimit]

@[simp] theorem exchanges_captureLimit
    (limit : PathLimit)
    (path : String) :
    ((captureLimit limit path).run
        host level state).exchanges =
      [⟨.pathLimit limit path,
        (host.answer (.pathLimit limit path) state).1⟩] := by
  simp [captureLimit]

/- The first capture at a path asks for each limit once. -/
theorem questions_capture
    (cache : LimitCache)
    (path : String)
    (hPath : path ≠ "")
    (hFirst : cache.captured = false) :
    ((cache.capture path).run host level state).questions =
      [.pathLimit .nameMax path, .pathLimit .noTrunc path,
        .pathLimit .pathMax path] := by
  simp [capture, hPath, hFirst, Run.questions]

/- A capture leaves what its exchanges report. -/
theorem value_capture
    (cache : LimitCache)
    (path : String)
    (hPath : path ≠ "")
    (hFirst : cache.captured = false) :
    ((cache.capture path).run host level state).value =
      (.ok true,
        ⟨some
          (Capture.snapshot
            ⟨path,
              ((cache.capture path).run
                host level state).exchanges⟩)⟩) := by
  simp [capture, hPath, hFirst, Capture.snapshot,
    Capture.reported?, List.findSome?_cons]
  refine ⟨?_, ?_, ?_⟩ <;> split <;> assumption

/- Without a path, or once captured, nothing is asked. -/
theorem run_capture_refused
    (cache : LimitCache)
    (path : String)
    (hRefused : path = "" ∨ cache.captured = true) :
    ((cache.capture path).run host level state).value.2 =
        cache ∧
      ((cache.capture path).run
        host level state).exchanges = [] := by
  by_cases hPath : path = ""
  · simp [capture, hPath]
  · have hCaptured : cache.captured = true := by
      simpa [hPath] using hRefused
    simp [capture, hPath, hCaptured]

/- What a cache holds after a request follows from its exchanges. -/
theorem perform_next
    (cache : LimitCache)
    (request : LimitRequest) :
    ((cache.perform request).run host level state).value.2 =
      cache.next
        ((cache.perform request).run
          host level state).exchanges
        request := by
  cases request with
  | nameMax path => simp [perform, next]
  | pathMax path => simp [perform, next]
  | noTruncation path => simp [perform, next]
  | systemLimit limit => simp [perform, next]
  | reset => simp [perform, next, reset]
  | capture path =>
      by_cases hRefused :
          path = "" ∨ cache.captured = true
      · have hSame :=
          (run_capture_refused host level state cache path
            hRefused).1
        simp [perform, next, hRefused, hSame]
      · have hPath : path ≠ "" := fun hEmpty =>
          hRefused (Or.inl hEmpty)
        have hFirst : cache.captured = false := by
          simpa [hPath] using hRefused
        have hValue :=
          value_capture host level state cache path hPath
            hFirst
        simp [perform, next, hPath, hFirst, hValue]

end Runs

end LimitCache

end CallDiagnosis

------------------------------------------------------------
-- Queries
------------------------------------------------------------

namespace CallDiagnosis

/- The request for the value of a limit at a path. -/
def LimitRequest.query :
    PathLimit → String → LimitRequest
| .nameMax, path => .nameMax path
| .pathMax, path => .pathMax path
| .noTrunc, path => .noTruncation path

/- What is told about a limit with a value. -/
def LimitReply.told :
    PathLimit → Int64 → LimitReply
| .nameMax, value => .number value.toUInt64
| .pathMax, value => .number value.toUInt64
| .noTrunc, value => .verdict (0 < value)

namespace LimitCache

variable {σ : Type}
variable (host : Host surroundings σ)
variable (level : Log.Level)
variable (state : σ)

/- A query is a look-up, and the value found is told. -/
theorem run_query
    (cache : LimitCache)
    (limit : PathLimit)
    (path : String) :
    (cache.perform (.query limit path)).run
        host level state =
      ((cache.lookup limit path >>= fun found =>
        pure (found.map (LimitReply.told limit), cache)).run
          host level state) := by
  cases hFound :
      ((cache.lookup limit path).run
        host level state).value with
  | error fault =>
      cases limit <;>
        simp [perform, nameMax, pathMax, noTruncation,
          LimitRequest.query, Run.followedBy, hFound,
          Except.map]
  | ok value =>
      cases limit <;>
        simp [perform, nameMax, pathMax, noTruncation,
          LimitRequest.query, LimitReply.told,
          Run.followedBy, hFound, Except.map]

/- A held value is told, and nobody is asked. -/
theorem run_query_held
    (cache : LimitCache)
    (limit : PathLimit)
    (path : String)
    (value : Int64)
    (hPath : path ≠ "")
    (hHeld : cache.held? limit = some value) :
    (cache.perform (.query limit path)).run
        host level state =
      ⟨(.ok (.told limit value), cache), state, [], []⟩ := by
  rw [run_query]
  simp [lookup, hPath, hHeld, Run.followedBy, Except.map]

/- Without a held value the answer of the moment is told. -/
theorem run_query_live
    (cache : LimitCache)
    (limit : PathLimit)
    (path : String)
    (hPath : path ≠ "")
    (hHeld : cache.held? limit = none) :
    (cache.perform (.query limit path)).run
        host level state =
      ⟨((host.answer (.pathLimit limit path) state).1.map
          (LimitReply.told limit), cache),
        (host.answer (.pathLimit limit path) state).2,
        [⟨.pathLimit limit path,
          (host.answer (.pathLimit limit path) state).1⟩],
        []⟩ := by
  rw [run_query]
  simp [lookup, hPath, hHeld, Run.followedBy]

/- Nothing is told about no path, and nobody is asked. -/
theorem run_query_empty
    (cache : LimitCache)
    (limit : PathLimit) :
    (cache.perform (.query limit "")).run host level state =
      ⟨(.error (.invalidArgument .path), cache), state,
        [], []⟩ := by
  rw [run_query]
  simp [lookup, Run.followedBy, Except.map]

/- Nothing is captured at no path, and nobody is asked. -/
theorem run_capture_empty
    (cache : LimitCache) :
    (cache.perform (.capture "")).run host level state =
      ⟨(.error (.invalidArgument .path), cache), state,
        [], []⟩ := by
  simp [perform, capture, Run.followedBy, Except.map]

end LimitCache

end CallDiagnosis
