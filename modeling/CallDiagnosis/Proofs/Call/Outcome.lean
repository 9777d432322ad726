import CallDiagnosis.Call.Explain
import CallDiagnosis.Proofs.Inquiry.Sequencing

/-
  What becomes of a call that is to be explained.

  Key definitions include:
    * `CallDiagnosis.SystemCall.explained`
    * `CallDiagnosis.Explain.Conclusive`
    * `CallDiagnosis.Explain.Outcome`

  Key theorems include:
    * `CallDiagnosis.Explain.conclusive_walkOrDescribe`
    * `CallDiagnosis.Explain.outcome_explainerFor`
    * `CallDiagnosis.Explain.every_call_has_its_outcome`

  The rules for what an explainer does with the arguments of a
  call are written down here, one constructor for each.  Of an
  explained call with a path there is always an explanation,
  and it has a diagnosis exactly if something failed.  Where
  there is none, nobody was asked anything.
-/

------------------------------------------------------------
-- Outcomes
------------------------------------------------------------

namespace CallDiagnosis

/- The calls whose failures are explained. -/
def SystemCall.explained : List SystemCall :=
  [.chroot, .lstat, .openFile, .stat, .unlink]

/- The path that a call was given, if the call is explained. -/
def Call.path? :
    Call → Option String
| .chroot path => some path
| .lstat path => some path
| .openFile path _ _ => some path
| .stat path => some path
| .unlink path => some path
| _ => none

namespace Explain

/-
  What the explainer of a system call makes of the arguments
  of a call, and what it asks for that.
-/
inductive Outcome
    (s : SystemCall)
    (e : Errno)
    (call : Call) :
    Except Fault Explanation →
      List (Exchange surroundings) → Prop where
| declined
    (hDeclined : s ∉ SystemCall.explained) :
    Outcome s e call
      (.error (.notImplemented call.systemCall)) []
| mismatched
    (hExplained : s ∈ SystemCall.explained)
    (hOther : call.systemCall ≠ s) :
    Outcome s e call
      (.error (.invalidArgument .arguments)) []
| unnamed
    (hExplained : s ∈ SystemCall.explained)
    (hOwn : call.systemCall = s)
    (hPath : call.path? = some "") :
    Outcome s e call (.error (.invalidArgument .path)) []
| explained
    (hExplained : s ∈ SystemCall.explained)
    (hOwn : call.systemCall = s)
    (path : String)
    (hPath : call.path? = some path)
    (hNamed : path ≠ "")
    (x : Explanation)
    (hCall : x.call = s)
    (hDiagnosis : x.diagnosis = none ↔ e = .success)
    (exchanges : List (Exchange surroundings)) :
    Outcome s e call (.ok x) exchanges

/- An explainer never calls a session disabled. -/
theorem Outcome.ne_disabled
    {s : SystemCall}
    {e : Errno}
    {call : Call}
    {value : Except Fault Explanation}
    {exchanges : List (Exchange surroundings)}
    (hOutcome : Outcome s e call value exchanges) :
    value ≠ .error .disabled := by
  cases hOutcome <;> simp

end Explain

end CallDiagnosis

------------------------------------------------------------
-- Conclusive Findings
------------------------------------------------------------

namespace CallDiagnosis

/- No call is without a name. -/
theorem SystemCall.name_ne_empty
    (s : SystemCall) :
    s.name ≠ "" := by
  cases s <;> decide

namespace Explain

/- A finding that tells something exactly if something failed. -/
def Conclusive
    (e : Errno)
    (finding : Finding) :
    Prop :=
  ∃ found, finding = .ok found ∧ (found = none ↔ e = .success)

theorem conclusive_some
    (e : Errno)
    (diagnosis : Diagnosis)
    (hFailed : e ≠ .success) :
    Conclusive e (.ok (some diagnosis)) :=
  ⟨some diagnosis, rfl, by simp [hFailed]⟩

/- The general description has a word for every failure. -/
theorem conclusive_describe
    (e : Errno)
    (s : SystemCall) :
    Conclusive e (describe e s.name) := by
  unfold describe
  rw [if_neg s.name_ne_empty]
  split
  · rename_i hSuccess
    exact ⟨none, rfl, by simp [hSuccess]⟩
  · rename_i hFailed
    exact conclusive_some e _ hFailed

section Runs

variable {σ : Type}
variable (host : Host surroundings σ)
variable (level : Log.Level)
variable (state : σ)
variable (c : Context)
variable (e : Errno)
variable (path : String)

/- A walk down a path that is not empty is always answered. -/
theorem exists_value_walk
    (intent : Intent)
    (expected : ExpectedKind)
    (hNamed : path ≠ "") :
    ∃ found,
      ((walk c e path intent expected).run
        host level state).value = .ok found := by
  unfold walk
  rw [if_neg hNamed, Inquiry.run_bind, Run.followedBy_value]
  split
  · exact ⟨_, rfl⟩
  · rw [Inquiry.run_bind, Run.followedBy_value]
    exact ⟨_, rfl⟩

/- Where a walk finds nothing, the description does. -/
theorem conclusive_walkOrDescribe
    (s : SystemCall)
    (intent : Intent)
    (expected : ExpectedKind)
    (hNamed : path ≠ "") :
    Conclusive e
      ((walkOrDescribe c e s path intent expected).run
        host level state).value := by
  unfold walkOrDescribe
  by_cases hResolution : e ∈ Errno.pathResolution
  · have hFailed : e ≠ .success := by
      rintro rfl
      exact absurd hResolution (by decide)
    rcases
        exists_value_walk host level state c e path intent
          expected hNamed with
      ⟨found, hFound⟩
    rw [if_pos hResolution, Inquiry.run_bind,
      Run.followedBy_value, hFound]
    cases found with
    | some diagnosis => exact conclusive_some e _ hFailed
    | none => exact conclusive_describe e s
  · rw [if_neg hResolution]
    exact conclusive_describe e s

/- A change of the root that failed has a cause. -/
theorem conclusive_chrootFinding
    (hNamed : path ≠ "") :
    Conclusive e
      ((chrootFinding c e path).run
        host level state).value := by
  unfold chrootFinding
  by_cases hMemory : e = .enomem
  · rw [if_pos hMemory]
    exact conclusive_some e _ (by rw [hMemory]; decide)
  · rw [if_neg hMemory]
    exact conclusive_walkOrDescribe host level state c e path
      .chroot _ _ hNamed

/- Opening a file is refused only if something failed. -/
theorem ne_success_of_openRefused
    (diagnosis : Diagnosis)
    (hRefused :
      ((openRefused c e path).run host level state).value =
        some diagnosis) :
    e ≠ .success := by
  rintro rfl
  have hDirectory : Errno.success ≠ .eisdir := by decide
  have hReadOnly : Errno.success ≠ .erofs := by decide
  simp [openRefused, hDirectory, hReadOnly] at hRefused

/- What a call alone can fail with comes before the rest. -/
theorem conclusive_refusedOr
    (refused : Consult (Option Diagnosis))
    (rest : Consult Finding)
    (hRefused :
      ∀ diagnosis,
        (refused.run host level state).value =
          some diagnosis → e ≠ .success)
    (hRest :
      ∀ state,
        Conclusive e (rest.run host level state).value) :
    Conclusive e
      ((refused >>= fun found =>
        match found with
        | some diagnosis => pure (.ok (some diagnosis))
        | none => rest).run host level state).value := by
  rw [Inquiry.run_bind, Run.followedBy_value]
  cases hFound : (refused.run host level state).value with
  | some diagnosis =>
      exact conclusive_some e diagnosis
        (hRefused diagnosis hFound)
  | none => exact hRest _

/- An opening that failed has a cause. -/
theorem conclusive_openFinding
    (intent : Intent)
    (hNamed : path ≠ "") :
    Conclusive e
      ((openFinding c e path intent).run
        host level state).value := by
  have hRest (later : σ) :=
    conclusive_walkOrDescribe host level later c e path
      .openFile intent .regular hNamed
  unfold openFinding
  by_cases hMutation : intent.WantsMutation
  · simp only [if_pos hMutation]
    exact conclusive_refusedOr host level state e _ _
      (ne_success_of_openRefused host level state c e path)
      hRest
  · simp only [if_neg hMutation]
    exact conclusive_refusedOr host level state e (pure none)
      _ (fun _ hRefused => by cases hRefused) hRest

/- A removal that failed has a cause. -/
theorem conclusive_unlinkFinding
    (hNamed : path ≠ "") :
    Conclusive e
      ((unlinkFinding c e path).run
        host level state).value := by
  have hRest (later : σ) :=
    conclusive_walkOrDescribe host level later c e path
      .unlink (.wantUnlink ||| .mustExist) .regular hNamed
  unfold unlinkFinding
  by_cases hLeaf : e = .eperm ∨ e = .eisdir
  · have hFailed : e ≠ .success := by
      rintro rfl
      exact absurd hLeaf (by decide)
    simp only [if_pos hLeaf]
    exact conclusive_refusedOr host level state e _ _
      (fun _ _ => hFailed) hRest
  · simp only [if_neg hLeaf]
    exact conclusive_refusedOr host level state e (pure none)
      _ (fun _ hRefused => by cases hRefused) hRest

end Runs

end Explain

end CallDiagnosis

------------------------------------------------------------
-- Outcomes of Single Explainers
------------------------------------------------------------

namespace CallDiagnosis

namespace Explain

variable {σ : Type}
variable (host : Host surroundings σ)
variable (level : Log.Level)
variable (state : σ)
variable (c : Context)
variable (e : Errno)
variable (call : Call)

/- A conclusive finding about a path makes an explanation. -/
theorem outcome_withPath
    (s : SystemCall)
    (path arguments : String)
    (find : Consult Finding)
    (hExplained : s ∈ SystemCall.explained)
    (hOwn : call.systemCall = s)
    (hPath : call.path? = some path)
    (hFind :
      path ≠ "" →
        Conclusive e (find.run host level state).value) :
    Outcome s e call
      ((withPath s path arguments find).run
        host level state).value
      ((withPath s path arguments find).run
        host level state).exchanges := by
  unfold withPath
  by_cases hEmpty : path = ""
  · rw [if_pos hEmpty]
    exact .unnamed hExplained hOwn (by rw [hPath, hEmpty])
  · rcases hFind hEmpty with ⟨found, hFound, hDiagnosis⟩
    rw [if_neg hEmpty, Inquiry.run_bind,
      Run.followedBy_value, hFound]
    exact .explained hExplained hOwn path hPath hEmpty _ rfl
      (by simpa using hDiagnosis) _

/- The arguments of another call are refused unseen. -/
theorem outcome_refuse
    (s : SystemCall)
    (hExplained : s ∈ SystemCall.explained)
    (hOther : call.systemCall ≠ s) :
    Outcome s e call
      ((refuse call).run host level state).value
      ((refuse call).run host level state).exchanges := by
  have hRefused :
      ((refuse call).run host level state).value =
          .error (.invalidArgument .arguments) ∧
        ((refuse call).run host level state).exchanges =
          [] := by
    simp [refuse]
  rw [hRefused.1, hRefused.2]
  exact .mismatched hExplained hOther

theorem outcome_stat :
    Outcome .stat e call
      ((stat c e call).run host level state).value
      ((stat c e call).run host level state).exchanges := by
  cases call with
  | stat path =>
      exact outcome_withPath host level state e _ .stat path _
        _ (by decide) rfl rfl
        (conclusive_walkOrDescribe host level state c e path
          .stat _ _)
  | _ =>
      exact outcome_refuse host level state e _ .stat
        (by decide) (by simp [Call.systemCall])

theorem outcome_lstat :
    Outcome .lstat e call
      ((lstat c e call).run host level state).value
      ((lstat c e call).run host level state).exchanges := by
  cases call with
  | lstat path =>
      exact outcome_withPath host level state e _ .lstat path
        _ _ (by decide) rfl rfl
        (conclusive_walkOrDescribe host level state c e path
          .lstat _ _)
  | _ =>
      exact outcome_refuse host level state e _ .lstat
        (by decide) (by simp [Call.systemCall])

theorem outcome_chroot :
    Outcome .chroot e call
      ((chroot c e call).run host level state).value
      ((chroot c e call).run host level state).exchanges := by
  cases call with
  | chroot path =>
      exact outcome_withPath host level state e _ .chroot path
        _ _ (by decide) rfl rfl
        (conclusive_chrootFinding host level state c e path)
  | _ =>
      exact outcome_refuse host level state e _ .chroot
        (by decide) (by simp [Call.systemCall])

theorem outcome_openFile :
    Outcome .openFile e call
      ((openFile c e call).run host level state).value
      ((openFile c e call).run
        host level state).exchanges := by
  cases call with
  | openFile path flags mode =>
      exact outcome_withPath host level state e _ .openFile
        path _ _ (by decide) rfl rfl
        (conclusive_openFinding host level state c e path _)
  | _ =>
      exact outcome_refuse host level state e _ .openFile
        (by decide) (by simp [Call.systemCall])

theorem outcome_unlink :
    Outcome .unlink e call
      ((unlink c e call).run host level state).value
      ((unlink c e call).run host level state).exchanges := by
  cases call with
  | unlink path =>
      exact outcome_withPath host level state e _ .unlink path
        _ _ (by decide) rfl rfl
        (conclusive_unlinkFinding host level state c e path)
  | _ =>
      exact outcome_refuse host level state e _ .unlink
        (by decide) (by simp [Call.systemCall])

/- Every explainer keeps to the rules, for all arguments. -/
theorem outcome_explainerFor
    (s : SystemCall) :
    Outcome s e call
      ((explainerFor s c e call).run host level state).value
      ((explainerFor s c e call).run
        host level state).exchanges := by
  cases s with
  | chroot =>
      exact outcome_chroot host level state c e call
  | lstat => exact outcome_lstat host level state c e call
  | openFile =>
      exact outcome_openFile host level state c e call
  | stat => exact outcome_stat host level state c e call
  | unlink =>
      exact outcome_unlink host level state c e call
  | _ => exact .declined (by decide)

end Explain

end CallDiagnosis

------------------------------------------------------------
-- Outcomes of All Calls
------------------------------------------------------------

namespace CallDiagnosis

/- The table holds the library's own explainer for a call. -/
theorem CallTable.get_standard
    (s : SystemCall) :
    CallTable.standard.get s = Explain.explainerFor s := by
  change (SystemCall.all.map Explain.explainerFor)[s.number] = _
  rw [Fin.getElem_fin, Vector.getElem_map]
  exact congrArg Explain.explainerFor s.all_number

namespace Explain

/-
  The table and the direct way explain a call alike, and its
  outcome is the one that the rules give for its own explainer.
  The rules hold for every other explainer as well, should it
  be given the arguments of the call.
-/
theorem every_call_has_its_outcome
    (c : Context)
    (e : Errno)
    (call : Call) :
    CallTable.standard.explain c e call = direct c e call ∧
    ∀ {σ : Type} (host : Host surroundings σ)
      (level : Log.Level) (state : σ),
      Outcome call.systemCall e call
        ((direct c e call).run host level state).value
        ((direct c e call).run host level state).exchanges ∧
      ∀ s,
        Outcome s e call
          ((explainerFor s c e call).run
            host level state).value
          ((explainerFor s c e call).run
            host level state).exchanges := by
  constructor
  · rw [CallTable.explain, CallTable.get_standard]
    rfl
  · intro σ host level state
    constructor
    · exact outcome_explainerFor host level state c e call
        call.systemCall
    · intro s
      exact outcome_explainerFor host level state c e call s

end Explain

end CallDiagnosis
