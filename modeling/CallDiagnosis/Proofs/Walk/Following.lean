import CallDiagnosis.Proofs.Inquiry.Matching
import CallDiagnosis.Proofs.Walk.Calls
import CallDiagnosis.Proofs.Walk.Leaf

/-
  Walks that follow the last link and walks that do not.

  Key definitions include:
    * `CallDiagnosis.Walk.SideBySide`
    * `CallDiagnosis.Walk.FollowingMatters`

  Key theorems include:
    * `CallDiagnosis.Walk.matched_inspect`
    * `CallDiagnosis.Walk.matched_walk`
    * `CallDiagnosis.Walk.told_alike_iff`

  A caller that looks through the link at the end of a path
  expects a regular file there, and one that looks at the link
  itself expects nothing.  Their walks ask the same, step by
  step, and tell the same in the same words, as long as the
  last step is not there.  If it is there, only the first of
  them can be told of a link that leads nowhere, or of a step
  of another kind where a directory was lacking.
-/

------------------------------------------------------------
-- Findings Side by Side
------------------------------------------------------------

namespace CallDiagnosis

namespace Walk

/-
  What one visit tells a caller that follows the last link
  and what it tells a caller that does not.
-/
inductive SideBySide
    (e : Errno) :
    Option Diagnosis → Option Diagnosis → Prop where
| same
    (found : Option Diagnosis) :
    SideBySide e found found
| missing
    (path : String) :
    SideBySide e
      (some (.missingLeaf .regular path))
      (some (.missingLeaf .unspecified path))
| refused
    (attempt : Attempt)
    (path : String)
    (container : Option Container) :
    SideBySide e
      (some (.refused attempt .regular path container))
      (some (.refused attempt .unspecified path container))
| dangling
    (path : String)
    (hMissing : e = .enoent) :
    SideBySide e (some (.danglingLink path)) none
| mistaken
    (path : String)
    (found : FileKind)
    (hDirectory : e = .enotdir) :
    SideBySide e (some (.wrongKind path found .regular)) none

/- Two findings, if there are two, read the same. -/
theorem SideBySide.text_eq
    {e : Errno}
    {followed kept : Diagnosis}
    (hBoth : SideBySide e (some followed) (some kept)) :
    followed.text = kept.text := by
  cases hBoth with
  | same => rfl
  | missing path => rfl
  | refused attempt path container =>
      cases container with
      | none => rfl
      | some c => rfl

/- Only after two errors one of them is told something else. -/
theorem SideBySide.errno
    {e : Errno}
    {followed kept : Option Diagnosis}
    (hBoth : SideBySide e followed kept)
    (hApart :
      followed.map Diagnosis.text ≠ kept.map Diagnosis.text) :
    e = .enoent ∨ e = .enotdir := by
  cases hBoth with
  | same => exact absurd rfl hApart
  | missing path => exact absurd rfl hApart
  | refused attempt path container =>
      have hText :=
        (SideBySide.refused attempt path container :
          SideBySide e _ _).text_eq
      exact absurd (congrArg some hText) hApart
  | dangling path hMissing => exact .inl hMissing
  | mistaken path found hDirectory => exact .inr hDirectory

variable (e : Errno)
variable (step : Path.Step)

/- A failed look is told in the same words. -/
theorem sideBySide_leafFailure
    (reason : Errno) :
    SideBySide e
      (leafFailure step reason .wantSearch .regular)
      (leafFailure step reason .wantSearch .unspecified) := by
  unfold leafFailure stepFailure
  by_cases hMissing : reason = .enoent
  · rw [if_pos hMissing, if_pos hMissing]
    exact .missing step.path
  · rw [if_neg hMissing, if_neg hMissing]
    exact .same _

/- Whoever expects nothing is content with what is there. -/
theorem leafFound_unspecified
    (status : FileStatus)
    (intent : Intent) :
    leafFound e step status intent .unspecified = none := by
  have hStays : ¬ ExpectedKind.unspecified.FollowsLinks := by
    decide
  have hContent : status.kind.Satisfies .unspecified := by
    intro required hRequired
    contradiction
  unfold leafFound
  by_cases hLink : status.kind = .symlink
  · rw [if_pos hLink, if_neg (fun hBoth => hStays hBoth.2)]
  · rw [if_neg hLink, if_neg (fun hBoth => hBoth.2 hContent)]

/- Whoever follows the link may be told of it or of its kind. -/
theorem sideBySide_leafFound
    (status : FileStatus) :
    SideBySide e
      (leafFound e step status .wantSearch .regular)
      (leafFound e step status .wantSearch .unspecified) := by
  have hEasy :
      ¬ Intent.wantSearch.Contains .mustHaveKind := by
    decide
  rw [leafFound_unspecified]
  unfold leafFound
  split_ifs with hLink hDangling hMistaken hDirectory
  · exact .dangling step.path hDangling.1
  · exact .same none
  · contradiction
  · exact
      .mistaken step.path status.kind
        (hMistaken.1.resolve_left hEasy)
  · exact .same none

theorem matched_leafRefused
    (status : FileStatus) :
    (leafRefused step status .wantSearch .regular).Matched
      (fun followed kept =>
        SideBySide e (some followed) (some kept))
      (leafRefused step status .wantSearch .unspecified) := by
  have hSubject (container : Option Container) :
      SideBySide e
        (some
          (.refused (attempt .wantSearch)
            (if status.kind = .directory then
              .directory
            else
              .regular)
            step.path container))
        (some
          (.refused (attempt .wantSearch)
            (if status.kind = .directory then
              .directory
            else
              .unspecified)
            step.path container)) := by
    split_ifs
    · exact .same _
    · exact .refused _ _ _
  unfold leafRefused
  by_cases hRoot : step.parent = ""
  · rw [if_pos hRoot, if_pos hRoot]
    exact .done _ _ (hSubject none)
  · rw [if_neg hRoot, if_neg hRoot]
    apply Inquiry.Matched.after
    rintro (reason | container)
    · apply Inquiry.Matched.after
      intro _
      exact .done _ _ (hSubject none)
    · exact .done _ _ (hSubject _)

theorem matched_leafSuccess
    (status : FileStatus) :
    (leafSuccess e step status .wantSearch .regular).Matched
      (SideBySide e)
      (leafSuccess e step status .wantSearch
        .unspecified) := by
  unfold leafSuccess
  by_cases hRefused : e = .eacces
  · rw [if_pos hRefused, if_pos hRefused]
    apply (matched_leafRefused e step status).bind
    intro followed kept hBoth
    exact .done _ _ hBoth
  · rw [if_neg hRefused, if_neg hRefused]
    exact .done _ _ (sideBySide_leafFound e step status)

end Walk

end CallDiagnosis

------------------------------------------------------------
-- Walks Side by Side
------------------------------------------------------------

namespace CallDiagnosis

namespace Walk

variable (e : Errno)

/-
  Both callers' visits go side by side.  The induction is on
  the steps: all but the last one are treated alike, whatever
  is expected at the end.
-/
theorem matched_inspect
    (signals : SignalCheck)
    (limit : Option UInt64)
    (steps : List Path.Step) :
    (inspect signals limit e .wantSearch .regular
        steps).Matched
      (SideBySide e)
      (inspect signals limit e .wantSearch .unspecified
        steps) := by
  induction steps with
  | nil => exact .done _ _ (.same none)
  | cons step rest ih =>
      unfold inspect
      apply Inquiry.Matched.after
      intro _
      cases brokenLimit? limit step.component with
      | some l => exact .done _ _ (.same _)
      | none =>
          apply Inquiry.Matched.after
          rintro (reason | status)
          · apply Inquiry.Matched.after
            intro _
            cases rest.isEmpty with
            | true =>
                exact
                  .done _ _
                    (sideBySide_leafFailure e step reason)
            | false => exact .done _ _ (.same _)
          · cases rest.isEmpty with
            | true => exact matched_leafSuccess e step status
            | false =>
                simp only [Bool.false_eq_true, if_false]
                by_cases hKind : status.Traversable
                · rw [if_pos hKind, if_pos hKind]
                  exact ih
                · rw [if_neg hKind, if_neg hKind]
                  exact .done _ _ (.same _)

/- So do their walks, with all that is asked about limits. -/
theorem matched_walk
    (c : Context)
    (path : String)
    (hPath : path ≠ "") :
    (walk c e path .wantSearch .regular).Matched
      (fun followed kept =>
        ∃ found left,
          followed = .ok found ∧ kept = .ok left ∧
            SideBySide e found left)
      (walk c e path .wantSearch .unspecified) := by
  unfold walk
  rw [if_neg hPath, if_neg hPath]
  apply Inquiry.Matched.after
  rintro (_ | diagnosis)
  · have hDescends :
        (descend c e path .wantSearch .regular).Matched
          (SideBySide e)
          (descend c e path .wantSearch .unspecified) := by
      unfold descend
      apply Inquiry.Matched.after
      intro _
      apply Inquiry.Matched.after
      intro limit
      exact matched_inspect e c.signals limit _
    apply hDescends.bind
    intro found left hBoth
    exact .done _ _ ⟨found, left, rfl, rfl, hBoth⟩
  · exact .done _ _ ⟨_, _, rfl, rfl, .same _⟩

end Walk

end CallDiagnosis

------------------------------------------------------------
-- What Following a Link Changes
------------------------------------------------------------

namespace CallDiagnosis

namespace Walk

/-
  Something was missing and the last step is a link, or a
  directory was lacking and the last step is neither a regular
  file nor a link.
-/
def FollowingMatters
    (e : Errno)
    (status : FileStatus) :
    Prop :=
  (e = .enoent ∧ status.kind = .symlink) ∨
    (e = .enotdir ∧ status.kind ≠ .regular ∧
      status.kind ≠ .symlink)

/- These are the steps that a follower of links is told of. -/
theorem followingMatters_iff
    (e : Errno)
    (status : FileStatus) :
    FollowingMatters e status ↔
      Dangling e .regular status ∨
        Mistaken e .wantSearch .regular status := by
  have hEasy :
      ¬ Intent.wantSearch.Contains .mustHaveKind := by
    decide
  unfold FollowingMatters
  constructor
  · rintro (⟨hErrno, hLink⟩ | ⟨hErrno, hKind, hLink⟩)
    · exact .inl ⟨hLink, hErrno, .inl rfl⟩
    · exact .inr ⟨hLink, .inr hErrno, .regular, rfl, hKind⟩
  · rintro (⟨hLink, hErrno, -⟩ | ⟨hLink, hMatters, hKind⟩)
    · exact .inl ⟨hErrno, hLink⟩
    · rcases hKind with ⟨kind, ⟨⟩, hKind⟩
      exact
        .inr ⟨hMatters.resolve_left hEasy, hKind, hLink⟩

/- It is never a matter of access or of lengths. -/
theorem FollowingMatters.errno
    {e : Errno}
    {status : FileStatus}
    (hMatters : FollowingMatters e status) :
    e ≠ .eacces ∧ e ≠ .enametoolong := by
  rcases hMatters with ⟨rfl, -⟩ | ⟨rfl, -⟩
  · decide
  · decide

/- A link that leads nowhere is told as one. -/
theorem FoundSentence.eq_dangling
    {e : Errno}
    {intent : Intent}
    {expected : ExpectedKind}
    {status : FileStatus}
    {path : String}
    {sentence : Option String}
    (hSentence :
      FoundSentence e intent expected status path sentence)
    (hLink : Dangling e expected status) :
    sentence =
      some
        (s!"symbolic link '{path}' points to a target " ++
          "that does not exist") := by
  cases hSentence with
  | dangling => rfl
  | notDirectory hMistaken => exact absurd hLink.1 hMistaken.1
  | wrongKind hMistaken => exact absurd hLink.1 hMistaken.1
  | silent hElse => exact absurd hLink hElse

/- A step of the wrong kind is told with both kinds. -/
theorem FoundSentence.eq_wrongKind
    {e : Errno}
    {intent : Intent}
    {expected : ExpectedKind}
    {status : FileStatus}
    {path : String}
    {sentence : Option String}
    (hSentence :
      FoundSentence e intent expected status path sentence)
    (hExpected : expected ≠ .directory)
    (hMistaken : Mistaken e intent expected status) :
    sentence =
      some
        (s!"path '{path}' is a {status.kind.noun}, " ++
          s!"not a {expected.noun}") := by
  cases hSentence with
  | dangling hLink => exact absurd hLink.1 hMistaken.1
  | notDirectory _ hDirectory =>
      exact absurd hDirectory hExpected
  | wrongKind => rfl
  | silent _ hElse => exact absurd hMistaken hElse

/- One word for what was expected makes one sentence. -/
theorem LeafSentence.alike
    {intent : Intent}
    {expected other : ExpectedKind}
    {parent path : String}
    {reason : Errno}
    {first second : Option String}
    (hNoun : expected.noun = other.noun)
    (hFirst :
      LeafSentence intent expected parent path reason first)
    (hSecond :
      LeafSentence intent other parent path reason second) :
    first = second := by
  cases hFirst with
  | search hIntent hSentence =>
      rw [hNoun] at hSentence
      cases hSecond with
      | search _ hOther => exact hSentence.unique hOther
      | change hElse _ => exact absurd hIntent hElse
  | change hIntent hSentence =>
      rw [hNoun] at hSentence
      cases hSecond with
      | search hElse _ => exact absurd hElse hIntent
      | change _ hOther => exact hSentence.unique hOther

variable {σ : Type}
variable (host : Host surroundings σ)
variable (level : Log.Level)
variable (state : σ)
variable (c : Context)
variable (e : Errno)
variable (path : String)
variable (last : Nat)
variable (status : FileStatus)

/- Whoever looks at the link itself is told of nothing there. -/
theorem value_walk_unspecified
    (hPath : path ≠ "")
    (hAllowed : e ≠ .eacces)
    (hErrno : e ≠ .enametoolong)
    (hFinds :
      Finds host state c.signals
        (Path.components (c.resolve path)) last status) :
    ((walk c e path .wantSearch .unspecified).run
        host level state).value =
      .ok none := by
  rw [value_walk_found host level state c e path .wantSearch
    .unspecified last status hPath hErrno hFinds]
  unfold leafSuccess
  rw [if_neg hAllowed, leafFound_unspecified]
  rfl

variable (found left : Option Diagnosis)

/- Whoever looks through it is told exactly if this matters. -/
theorem isSome_iff_followingMatters
    (hPath : path ≠ "")
    (hAllowed : e ≠ .eacces)
    (hErrno : e ≠ .enametoolong)
    (hFinds :
      Finds host state c.signals
        (Path.components (c.resolve path)) last status)
    (hFound :
      ((walk c e path .wantSearch .regular).run
          host level state).value =
        .ok found) :
    found.isSome ↔ FollowingMatters e status := by
  rcases
      foundSentence_walk host level state c e path .wantSearch
        .regular last status hPath hAllowed hErrno hFinds with
    ⟨told, hTold, hSentence⟩
  rw [hFound, Except.ok.injEq] at hTold
  have hSome := hSentence.isSome_iff
  rw [Option.isSome_map, ← hTold] at hSome
  rw [hSome, followingMatters_iff]

variable (hPath : path ≠ "")
variable
  (hFound :
    ((walk c e path .wantSearch .regular).run
        host level state).value =
      .ok found)
variable
  (hLeft :
    ((walk c e path .wantSearch .unspecified).run
        host level state).value =
      .ok left)

include hPath hFound hLeft

/- Both are told the same where the last step is not there. -/
theorem told_alike_of_not_finds
    (hErrno : e ≠ .enametoolong)
    (hLost :
      ¬ ∃ last status,
        Finds host state c.signals
          (Path.components (c.resolve path)) last status) :
    found.map Diagnosis.text = left.map Diagnosis.text := by
  rw [value_walk host level state e .wantSearch .regular c
    path hPath hErrno, Except.ok.injEq] at hFound
  rw [value_walk host level state e .wantSearch .unspecified c
    path hPath hErrno, Except.ok.injEq] at hLeft
  rcases
      exists_first_stop host c.signals
        (Path.components (c.resolve path)) state
        (Path.length_components_pos (c.resolve path)) with
    ⟨k, hBound, hStop, hOnward⟩
  rw [stops_iff host c.signals _ state k hBound] at hStop
  have hLeads :
      ∀ i < k,
        LeadsOn
          (host.seen c.signals
            (Path.components (c.resolve path)) state i) := by
    intro i hi
    exact
      leadsOn_of_not_stops host c.signals _ state i (by omega)
        (hOnward i hi)
  by_cases hLast :
      (Path.components (c.resolve path)).length = k + 1
  · cases hSeen :
        host.seen c.signals
          (Path.components (c.resolve path)) state k with
    | ok status =>
        exact absurd ⟨k, status, hLast, hLeads, hSeen⟩ hLost
    | error reason =>
        rcases
            inspect_tells_leaf host level state c.signals
              (c.resolve path) k hLast hLeads reason hSeen
              .wantSearch .regular with
          ⟨told, hTold, hSentence⟩
        rcases
            inspect_tells_leaf host level state c.signals
              (c.resolve path) k hLast hLeads reason hSeen
              .wantSearch .unspecified with
          ⟨other, hOther, hOtherSentence⟩
        have hNoun :
            ExpectedKind.regular.noun =
              ExpectedKind.unspecified.noun :=
          rfl
        rw [← hFound, ← hLeft, hTold, hOther]
        exact hSentence.alike hNoun hOtherSentence
  · have hStuck :
        ¬ LeadsOn
          (host.seen c.signals
            (Path.components (c.resolve path)) state k) := by
      intro hLeadsOn
      exact hLast (hStop hLeadsOn).symm
    rcases
        inspect_tells_inner host level state c.signals
          (c.resolve path) k (by omega) hLeads hStuck with
      ⟨told, hTold, -⟩
    rw [← hFound, ← hLeft, hTold, hTold]

/- What they are told apart is a matter of the last step. -/
theorem finds_of_told_apart
    (hApart :
      found.map Diagnosis.text ≠ left.map Diagnosis.text) :
    ∃ last status,
      Finds host state c.signals
          (Path.components (c.resolve path)) last status ∧
        FollowingMatters e status := by
  have hBoth : SideBySide e found left := by
    rcases
        ((matched_walk e c path hPath).run host level
          state).1 with
      ⟨told, other, hTold, hOther, hBoth⟩
    rw [hFound, Except.ok.injEq] at hTold
    rw [hLeft, Except.ok.injEq] at hOther
    rw [hTold, hOther]
    exact hBoth
  have hErrno : e ≠ .eacces ∧ e ≠ .enametoolong := by
    rcases hBoth.errno hApart with rfl | rfl
    · decide
    · decide
  by_contra hNever
  have hLost :
      ¬ ∃ last status,
        Finds host state c.signals
          (Path.components (c.resolve path)) last status := by
    rintro ⟨last, status, hFinds⟩
    have hNone :=
      value_walk_unspecified host level state c e path last
        status hPath hErrno.1 hErrno.2 hFinds
    have hMatters :=
      isSome_iff_followingMatters host level state c e path
        last status found hPath hErrno.1 hErrno.2 hFinds
        hFound
    rw [hLeft, Except.ok.injEq] at hNone
    rw [hNone] at hApart
    have hSome : found.isSome := by
      rw [← Option.isSome_map]
      exact Option.isSome_iff_ne_none.mpr hApart
    exact hNever ⟨last, status, hFinds, hMatters.mp hSome⟩
  exact
    hApart
      (told_alike_of_not_finds host level state c e path found
        left hPath hFound hLeft hErrno.2 hLost)

/-
  Both are told the same in the same words exactly if the last
  step is not there, or is one to which following a link makes
  no difference.
-/
theorem told_alike_iff :
    found.map Diagnosis.text = left.map Diagnosis.text ↔
      ¬ ∃ last status,
        Finds host state c.signals
            (Path.components (c.resolve path)) last status ∧
          FollowingMatters e status := by
  constructor
  · rintro hAlike ⟨last, status, hFinds, hMatters⟩
    have hNone :=
      value_walk_unspecified host level state c e path last
        status hPath hMatters.errno.1 hMatters.errno.2 hFinds
    have hSome :=
      (isSome_iff_followingMatters host level state c e path
        last status found hPath hMatters.errno.1
        hMatters.errno.2 hFinds hFound).mpr hMatters
    rw [hLeft, Except.ok.injEq] at hNone
    rw [← Option.isSome_map, hAlike, hNone] at hSome
    contradiction
  · intro hNever
    by_contra hApart
    exact
      hNever
        (finds_of_told_apart host level state c e path found
          left hPath hFound hLeft hApart)

end Walk

end CallDiagnosis
