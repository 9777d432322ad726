import CallDiagnosis.Proofs.Call.Outcome
import CallDiagnosis.Proofs.Diagnosis.Ending
import CallDiagnosis.Proofs.Walk.Verdict

/-
  What is told of a call that has nothing to tell of its own.

  Key definitions include:
    * `CallDiagnosis.Explain.Described`
    * `CallDiagnosis.Explain.Fallback`
    * `CallDiagnosis.Explain.orWalk`

  Key theorems include:
    * `CallDiagnosis.Explain.fallback_walkOrDescribe`
    * `CallDiagnosis.Explain.Fallback.ne_of_ofCall`
    * `CallDiagnosis.Explain.run_withPath_orWalk`
    * `CallDiagnosis.Explain.fallback_withPath`

  Two calls have sentences of their own and look at a few
  files to find out if one of them applies.  If none does, the
  path is walked down afresh, provided that the error can come
  from resolving it, and what the walk does not account for is
  described in general.  Neither the walk nor the description
  ever uses the sentence of a single call.
-/

------------------------------------------------------------
-- Falling Back
------------------------------------------------------------

namespace CallDiagnosis

namespace Explain

/- What the general description tells of a failed call. -/
def Described
    (e : Errno)
    (s : SystemCall)
    (told : Option String) :
    Prop :=
  ∃ found,
    describe e s.name = .ok found ∧
      told = found.map Diagnosis.text

section Rules

variable {σ : Type}
variable (host : Host surroundings σ)
variable (level : Log.Level)
variable (state : σ)
variable (c : Context)
variable (e : Errno)
variable (s : SystemCall)
variable (path : String)
variable (intent : Intent)
variable (expected : ExpectedKind)

/-
  What is told if a call has nothing to tell of its own, and
  what is asked for it: a walk tells it, or the description
  does where a walk is silent or of no use.
-/
inductive Fallback :
    Option String → List (Exchange surroundings) → Prop where
| walked
    (hResolution : e ∈ Errno.pathResolution)
    (diagnosis : Diagnosis)
    (hWalk :
      ((walk c e path intent expected).run
          host level state).value =
        .ok (some diagnosis)) :
    Fallback (some diagnosis.text)
      ((walk c e path intent expected).run
        host level state).exchanges
| silent
    (hResolution : e ∈ Errno.pathResolution)
    (hWalk :
      ((walk c e path intent expected).run
          host level state).value =
        .ok none)
    (told : Option String)
    (hDescribed : Described e s told) :
    Fallback told
      ((walk c e path intent expected).run
        host level state).exchanges
| unwalked
    (hOther : e ∉ Errno.pathResolution)
    (told : Option String)
    (hDescribed : Described e s told) :
    Fallback told []

end Rules

/-
  Blame that a call can earn alone, and else a walk or the
  description.
-/
def orWalk
    (refused : Consult (Option Diagnosis))
    (c : Context)
    (e : Errno)
    (s : SystemCall)
    (path : String)
    (intent : Intent)
    (expected : ExpectedKind) :
    Consult Finding := do
  match ← refused with
  | some diagnosis => return .ok (some diagnosis)
  | none => walkOrDescribe c e s path intent expected

end Explain

end CallDiagnosis

------------------------------------------------------------
-- No Sentence of a Single Call
------------------------------------------------------------

namespace CallDiagnosis

/- No step is told in the sentence of a single call. -/
theorem Walk.Verdict.not_ofCall
    {e : Errno}
    {intent : Intent}
    {expected : ExpectedKind}
    {diagnosis : Diagnosis}
    (hVerdict : Walk.Verdict e intent expected diagnosis) :
    ¬ diagnosis.OfCall := by
  cases hVerdict <;> exact not_false

/- A call with a name is described, or nothing failed. -/
theorem describe_name
    (e : Errno)
    (s : SystemCall) :
    describe e s.name =
      .ok
        (if e = .success then
          none
        else
          some (.general s.name (.ofErrno e))) := by
  unfold describe
  rw [if_neg s.name_ne_empty]
  split_ifs
  · rfl
  · rfl

namespace Explain

variable {σ : Type}
variable (host : Host surroundings σ)
variable (level : Log.Level)
variable (state : σ)
variable (c : Context)
variable (e : Errno)
variable (s : SystemCall)
variable (path : String)
variable (intent : Intent)
variable (expected : ExpectedKind)

/- A description is not the sentence of a single call. -/
theorem Described.ne_of_ofCall
    {e : Errno}
    {s : SystemCall}
    {told : Option String}
    (hDescribed : Described e s told)
    {own : Diagnosis}
    (hOwn : own.OfCall) :
    told ≠ some own.text := by
  rcases hDescribed with ⟨found, hFound, rfl⟩
  rw [describe_name, Except.ok.injEq] at hFound
  subst hFound
  split_ifs
  · simp
  · have hOther :
        (Diagnosis.general s.name (.ofErrno e)).text ≠
          own.text :=
      Diagnosis.text_ne_of_ofCall hOwn not_false
    simpa using hOther

/- Neither is what a walk tells. -/
theorem walk_ne_of_ofCall
    {diagnosis : Diagnosis}
    (hWalk :
      ((walk c e path intent expected).run
          host level state).value =
        .ok (some diagnosis))
    {own : Diagnosis}
    (hOwn : own.OfCall) :
    diagnosis.text ≠ own.text := by
  apply Diagnosis.text_ne_of_ofCall hOwn
  rcases
      (Walk.yields_walk e intent expected c path).value host
        level state diagnosis hWalk with
    ⟨limit, rfl⟩ | hVerdict
  · exact not_false
  · exact hVerdict.not_ofCall

section Readings

variable {host : Host surroundings σ}
variable {level : Log.Level}
variable {state : σ}
variable {c : Context}
variable {e : Errno}
variable {s : SystemCall}
variable {path : String}
variable {intent : Intent}
variable {expected : ExpectedKind}
variable {told : Option String}
variable {exchanges : List (Exchange surroundings)}
variable
  (hFallback :
    Fallback host level state c e s path intent expected told
      exchanges)

include hFallback

theorem Fallback.ne_of_ofCall
    {own : Diagnosis}
    (hOwn : own.OfCall) :
    told ≠ some own.text := by
  cases hFallback with
  | walked hResolution diagnosis hWalk =>
      have hOther :=
        walk_ne_of_ofCall host level state c e path intent
          expected hWalk hOwn
      simpa using hOther
  | silent hResolution hWalk _ hDescribed =>
      exact hDescribed.ne_of_ofCall hOwn
  | unwalked hOther _ hDescribed =>
      exact hDescribed.ne_of_ofCall hOwn

/- Where no path is walked down, the description is all. -/
theorem Fallback.described
    (hOther : e ∉ Errno.pathResolution) :
    Described e s told ∧ exchanges = [] := by
  cases hFallback with
  | walked hResolution => exact absurd hResolution hOther
  | silent hResolution => exact absurd hResolution hOther
  | unwalked _ _ hDescribed => exact ⟨hDescribed, rfl⟩

/- Where one is, it asks all that is asked and comes first. -/
theorem Fallback.of_walk
    (hResolution : e ∈ Errno.pathResolution)
    {found : Option Diagnosis}
    (hWalk :
      ((walk c e path intent expected).run
          host level state).value =
        .ok found) :
    exchanges =
        ((walk c e path intent expected).run
          host level state).exchanges ∧
      (∀ diagnosis, found = some diagnosis →
        told = some diagnosis.text) ∧
      (found = none → Described e s told) := by
  cases hFallback with
  | walked _ diagnosis hTold =>
      rw [hWalk, Except.ok.injEq] at hTold
      subst hTold
      refine ⟨rfl, ?_, ?_⟩
      · rintro _ ⟨⟩
        rfl
      · intro hNone
        contradiction
  | silent _ hSilent _ hDescribed =>
      rw [hWalk, Except.ok.injEq] at hSilent
      subst hSilent
      refine ⟨rfl, ?_, fun _ => hDescribed⟩
      intro diagnosis hSome
      contradiction
  | unwalked hOther => exact absurd hResolution hOther

end Readings

end Explain

end CallDiagnosis

------------------------------------------------------------
-- Explanations that May Fall Back
------------------------------------------------------------

namespace CallDiagnosis

namespace Explain

variable {σ : Type}
variable (host : Host surroundings σ)
variable (level : Log.Level)
variable (state : σ)
variable (c : Context)
variable (e : Errno)
variable (s : SystemCall)
variable (path : String)
variable (intent : Intent)
variable (expected : ExpectedKind)

/- Every walk or description keeps to the rules. -/
theorem fallback_walkOrDescribe
    (hPath : path ≠ "") :
    ∃ found,
      ((walkOrDescribe c e s path intent expected).run
          host level state).value =
        .ok found ∧
      Fallback host level state c e s path intent expected
        (found.map Diagnosis.text)
        ((walkOrDescribe c e s path intent expected).run
          host level state).exchanges := by
  have hDescribed := describe_name e s
  unfold walkOrDescribe
  by_cases hResolution : e ∈ Errno.pathResolution
  · rcases
        exists_value_walk host level state c e path intent
          expected hPath with
      ⟨found, hWalk⟩
    rw [if_pos hResolution, Inquiry.run_bind,
      Run.followedBy_value, Run.followedBy_exchanges, hWalk]
    cases found with
    | some diagnosis =>
        refine ⟨some diagnosis, rfl, ?_⟩
        simpa using Fallback.walked hResolution diagnosis hWalk
    | none =>
        refine ⟨_, hDescribed, ?_⟩
        simpa using
          Fallback.silent hResolution hWalk _
            ⟨_, hDescribed, rfl⟩
  · rw [if_neg hResolution]
    exact
      ⟨_, hDescribed,
        .unwalked hResolution _ ⟨_, hDescribed, rfl⟩⟩

/-
  An explanation tells the blame that its call can earn alone
  and asks nothing more.  If there is none, it falls back from
  the state in which the search for it has left the host.
-/
theorem run_withPath_orWalk
    (arguments : String)
    (refused : Consult (Option Diagnosis))
    (hPath : path ≠ "") :
    ∃ told rest,
      ((withPath s path arguments
            (orWalk refused c e s path intent expected)).run
          host level state).value =
        .ok ⟨s, arguments, told⟩ ∧
      ((withPath s path arguments
            (orWalk refused c e s path intent expected)).run
          host level state).exchanges =
        (refused.run host level state).exchanges ++ rest ∧
      (∀ own,
        (refused.run host level state).value = some own →
        told = some own.text ∧ rest = []) ∧
      ((refused.run host level state).value = none →
        Fallback host level
          (refused.run host level state).state
          c e s path intent expected told rest) := by
  unfold withPath orWalk
  rw [if_neg hPath]
  simp only [Inquiry.run_bind, Run.followedBy_value,
    Run.followedBy_state, Run.followedBy_exchanges,
    Inquiry.run_pure, List.append_nil]
  cases hRefused : (refused.run host level state).value with
  | some diagnosis =>
      refine ⟨_, [], rfl, rfl, ?_, ?_⟩
      · rintro own ⟨⟩
        exact ⟨rfl, rfl⟩
      · intro hNone
        contradiction
  | none =>
      rcases
          fallback_walkOrDescribe host level
            (refused.run host level state).state c e s path
            intent expected hPath with
        ⟨found, hFound, hFallback⟩
      refine
        ⟨found.map Diagnosis.text, _, ?_, rfl, ?_, ?_⟩
      · rw [hFound]
        rfl
      · intro own hOwn
        contradiction
      · intro _
        exact hFallback

/- An explanation with no blame of its own only falls back. -/
theorem fallback_withPath
    (arguments : String)
    (hPath : path ≠ "") :
    ∃ told,
      ((withPath s path arguments
            (walkOrDescribe c e s path intent expected)).run
          host level state).value =
        .ok ⟨s, arguments, told⟩ ∧
      Fallback host level state c e s path intent expected told
        ((withPath s path arguments
            (walkOrDescribe c e s path intent expected)).run
          host level state).exchanges := by
  rcases
      run_withPath_orWalk host level state c e s path intent
        expected arguments (pure none) hPath with
    ⟨told, rest, hValue, hExchanges, -, hRest⟩
  change
    ((withPath s path arguments
          (walkOrDescribe c e s path intent expected)).run
        host level state).exchanges =
      rest at hExchanges
  refine ⟨told, hValue, ?_⟩
  rw [hExchanges]
  exact hRest rfl

end Explain

end CallDiagnosis
