import CallDiagnosis.Proofs.Inquiry.Yielding
import CallDiagnosis.Walk
import Mathlib.Tactic.SplitIfs

/-
  All that a walk can tell.

  Key definitions include:
    * `CallDiagnosis.Walk.Verdict`
    * `CallDiagnosis.Walk.OnlyVerdicts`

  Key theorems include:
    * `CallDiagnosis.Walk.yields_inspect`
    * `CallDiagnosis.Walk.yields_walk`

  A visit to the steps of a path ends with one of a few
  verdicts, whatever it is shown.  They are listed here, and
  what is known about the error and about the caller is kept
  with those that depend on it.  Whatever holds for each of
  them holds for all answers of a walk, and nothing else about
  the walk has to be looked into for that.
-/

------------------------------------------------------------
-- Verdicts
------------------------------------------------------------

namespace CallDiagnosis

namespace Walk

/- What a visit to the steps of a path can tell. -/
inductive Verdict
    (e : Errno)
    (intent : Intent)
    (expected : ExpectedKind) :
    Diagnosis → Prop where
| nameTooLong
    (name : String)
    (limit : UInt64) :
    Verdict e intent expected (.nameTooLong name limit)
| unresolvable
    (path : String) :
    Verdict e intent expected (.unresolvable path)
| missingDirectory
    (path : String) :
    Verdict e intent expected (.missingDirectory path)
| missingLeaf
    (path : String) :
    Verdict e intent expected (.missingLeaf expected path)
| notDirectory
    (path : String) :
    Verdict e intent expected (.notDirectory path)
| notSearchable
    (directory : String) :
    Verdict e intent expected (.notSearchable directory)
| notWritable
    (directory : String)
    (hIntent : ¬ intent.Contains .wantSearch) :
    Verdict e intent expected (.notWritable directory)
| tooManyLinks
    (path : String) :
    Verdict e intent expected (.tooManyLinks path)
| danglingLink
    (path : String)
    (hMissing : e = .enoent)
    (hFollowed : expected.FollowsLinks) :
    Verdict e intent expected (.danglingLink path)
| wrongKind
    (path : String)
    (found : FileKind)
    (hMatters :
      intent.Contains .mustHaveKind ∨ e = .enotdir) :
    Verdict e intent expected
      (.wrongKind path found expected)
| refused
    (subject : ExpectedKind)
    (path : String)
    (container : Option Container)
    (hRefused : e = .eacces)
    (hSubject : subject = .directory ∨ subject = expected) :
    Verdict e intent expected
      (.refused (attempt intent) subject path container)

/- Nothing is told, or one of the verdicts. -/
def OnlyVerdicts
    (e : Errno)
    (intent : Intent)
    (expected : ExpectedKind)
    (found : Option Diagnosis) :
    Prop :=
  ∀ diagnosis ∈ found, Verdict e intent expected diagnosis

variable {e : Errno}
variable {intent : Intent}
variable {expected : ExpectedKind}

theorem onlyVerdicts_none :
    OnlyVerdicts e intent expected none := by
  intro diagnosis hTold
  contradiction

theorem onlyVerdicts_some
    {diagnosis : Diagnosis}
    (hVerdict : Verdict e intent expected diagnosis) :
    OnlyVerdicts e intent expected (some diagnosis) := by
  rintro told ⟨⟩
  exact hVerdict

end Walk

end CallDiagnosis

------------------------------------------------------------
-- Verdicts of Single Steps
------------------------------------------------------------

namespace CallDiagnosis

namespace Walk

variable (e : Errno)
variable (intent : Intent)
variable (expected : ExpectedKind)
variable (step : Path.Step)

/- A failed look is told by verdicts if its own rules are. -/
theorem onlyVerdicts_stepFailure
    (reason : Errno)
    (missing denied : Diagnosis)
    (hMissing : Verdict e intent expected missing)
    (hDenied : Verdict e intent expected denied) :
    OnlyVerdicts e intent expected
      (stepFailure step reason missing denied) := by
  unfold stepFailure
  split_ifs
  · exact onlyVerdicts_some hMissing
  · exact onlyVerdicts_some hDenied
  · exact onlyVerdicts_some (.notDirectory _)
  · exact onlyVerdicts_some (.tooManyLinks _)
  · exact onlyVerdicts_some (.unresolvable _)
  · exact onlyVerdicts_none

theorem onlyVerdicts_innerFailure
    (reason : Errno) :
    OnlyVerdicts e intent expected
      (innerFailure step reason) :=
  onlyVerdicts_stepFailure e intent expected step reason _ _
    (.missingDirectory _) (.notSearchable _)

theorem onlyVerdicts_leafFailure
    (reason : Errno) :
    OnlyVerdicts e intent expected
      (leafFailure step reason intent expected) := by
  unfold leafFailure
  apply onlyVerdicts_stepFailure
  · exact .missingLeaf _
  · split_ifs with hSearch
    · exact .notSearchable _
    · exact .notWritable _ hSearch

theorem onlyVerdicts_leafFound
    (status : FileStatus) :
    OnlyVerdicts e intent expected
      (leafFound e step status intent expected) := by
  unfold leafFound
  split_ifs with hLink hDangling hMistaken hDirectory
  · exact
      onlyVerdicts_some
        (.danglingLink _ hDangling.1 hDangling.2)
  · exact onlyVerdicts_none
  · exact onlyVerdicts_some (.notDirectory _)
  · exact onlyVerdicts_some (.wrongKind _ _ hMistaken.1)
  · exact onlyVerdicts_none

/- A refused step is told as such after either second look. -/
theorem yields_leafRefused
    (status : FileStatus)
    (hRefused : e = .eacces) :
    (leafRefused step status intent expected).Yields
      (Verdict e intent expected) := by
  have hSubject :
      (if status.kind = .directory then
          ExpectedKind.directory
        else
          expected) = .directory ∨
      (if status.kind = .directory then
          ExpectedKind.directory
        else
          expected) = expected := by
    split_ifs
    · exact .inl rfl
    · exact .inr rfl
  unfold leafRefused
  by_cases hRoot : step.parent = ""
  · rw [if_pos hRoot]
    exact .done _ (.refused _ _ _ hRefused hSubject)
  · rw [if_neg hRoot]
    apply Inquiry.Yields.after
    rintro (reason | container)
    · apply Inquiry.Yields.after
      intro _
      exact .done _ (.refused _ _ _ hRefused hSubject)
    · exact .done _ (.refused _ _ _ hRefused hSubject)

theorem yields_leafSuccess
    (status : FileStatus) :
    (leafSuccess e step status intent expected).Yields
      (OnlyVerdicts e intent expected) := by
  unfold leafSuccess
  split_ifs with hRefused
  · apply
      (yields_leafRefused e intent expected step status
        hRefused).bind
    intro diagnosis hVerdict
    exact .done _ (onlyVerdicts_some hVerdict)
  · exact
      .done _
        (onlyVerdicts_leafFound e intent expected step status)

end Walk

end CallDiagnosis

------------------------------------------------------------
-- Verdicts of Walks
------------------------------------------------------------

namespace CallDiagnosis

namespace Walk

variable (e : Errno)
variable (intent : Intent)
variable (expected : ExpectedKind)

/-
  A visit tells nothing but verdicts.  The induction is on
  the steps: one that leads on leaves the telling to those
  below it.
-/
theorem yields_inspect
    (signals : SignalCheck)
    (limit : Option UInt64)
    (steps : List Path.Step) :
    (inspect signals limit e intent expected steps).Yields
      (OnlyVerdicts e intent expected) := by
  induction steps with
  | nil => exact .done _ onlyVerdicts_none
  | cons step rest ih =>
      unfold inspect
      apply Inquiry.Yields.after
      intro _
      split
      · exact .done _ (onlyVerdicts_some (.nameTooLong _ _))
      · apply Inquiry.Yields.after
        rintro (reason | status)
        · apply Inquiry.Yields.after
          intro _
          split_ifs
          · exact
              .done _
                (onlyVerdicts_leafFailure e intent expected
                  step reason)
          · exact
              .done _
                (onlyVerdicts_innerFailure e intent expected
                  step reason)
        · simp only
          split_ifs
          · exact
              yields_leafSuccess e intent expected step status
          · exact ih
          · exact .done _ (onlyVerdicts_some (.notDirectory _))

/- A walk can tell that a path is too long, or a verdict. -/
theorem yields_walk
    (c : Context)
    (path : String) :
    (walk c e path intent expected).Yields
      (fun finding =>
        ∀ diagnosis, finding = .ok (some diagnosis) →
          (∃ limit, diagnosis = .pathTooLong path limit) ∨
            Verdict e intent expected diagnosis) := by
  have hWhole :
      (wholePath c e path).Yields
        (fun found =>
          ∀ diagnosis ∈ found,
            ∃ limit, diagnosis = .pathTooLong path limit) := by
    unfold wholePath
    split_ifs
    · apply Inquiry.Yields.after
      rintro (fault | limit)
      · exact .done _ (by simp)
      · simp only
        split_ifs
        · exact .done _ (by simp)
        · exact .done _ (by simp)
    · exact .done _ (by simp)
  unfold walk
  split_ifs
  · exact .done _ (by simp)
  · apply hWhole.bind
    rintro (_ | diagnosis) hTold
    · have hDescends :
          (descend c e path intent expected).Yields
            (OnlyVerdicts e intent expected) := by
        unfold descend
        apply Inquiry.Yields.after
        intro _
        apply Inquiry.Yields.after
        intro limit
        exact yields_inspect e intent expected _ limit _
      apply hDescends.bind
      intro found hVerdicts
      refine .done _ ?_
      rintro diagnosis ⟨⟩
      exact .inr (hVerdicts diagnosis rfl)
    · refine .done _ ?_
      rintro told ⟨⟩
      exact .inl (hTold diagnosis rfl)

end Walk

end CallDiagnosis
