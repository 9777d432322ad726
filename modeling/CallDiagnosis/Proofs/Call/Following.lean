import CallDiagnosis.Proofs.Call.Fallback
import CallDiagnosis.Proofs.Inquiry.Steady
import CallDiagnosis.Proofs.Walk.Following

/-
  Looks through the last link and looks at the link itself.

  Key definitions include:
    * `CallDiagnosis.Explain.Agreement`

  Key theorems include:
    * `CallDiagnosis.Explain.Described.alike`
    * `CallDiagnosis.Explain.stat_agrees_with_lstat`

  Two calls look at a file, and they differ in what they make
  of a link at the end of the path.  If one of them fails and
  everything around stands still, the explanation of either
  call comes from the same calls.  It is the same explanation,
  save for a link that leads nowhere, for a step of the wrong
  kind, and for the name of the call where nothing is known.
-/

------------------------------------------------------------
-- Descriptions That Name a Call
------------------------------------------------------------

namespace CallDiagnosis

namespace Explain

/-
  After an error that resolving a path can raise, the general
  description has the name of the call in one place.
-/
theorem exists_around_name
    (e : Errno)
    (hResolution : e ∈ Errno.pathResolution) :
    ∃ before after, ∀ call,
      (GeneralCause.ofErrno e).text call =
        before ++ call ++ after := by
  have hCause :
      GeneralCause.ofErrno e = .notPrivileged ∨
        GeneralCause.ofErrno e = .unknown := by
    revert e
    decide
  rcases hCause with hCause | hCause
  · refine
      ⟨"the process does not have the appropriate " ++
        "privileges " ++ "to use the ", " system call", ?_⟩
    intro call
    rw [hCause]
    change
      "the process does not have the appropriate " ++
          "privileges " ++
          ("to use the " ++ call ++ " system call") =
        _
    simp only [String.append_assoc]
  · refine
      ⟨"the entropic gremlins have frobnicated " ++ "the ",
        " system call", ?_⟩
    intro call
    rw [hCause]
    change
      "the entropic gremlins have frobnicated " ++
          ("the " ++ call ++ " system call") =
        _
    simp only [String.append_assoc]

/- A failed call is described by the cause of its error. -/
theorem Described.eq_text
    {e : Errno}
    {s : SystemCall}
    {told : Option String}
    (hDescribed : Described e s told)
    (hFailed : e ≠ .success) :
    told = some ((GeneralCause.ofErrno e).text s.name) := by
  rcases hDescribed with ⟨found, hFound, rfl⟩
  rw [describe_name, if_neg hFailed, Except.ok.injEq] at hFound
  rw [← hFound]
  rfl

/- Two calls are described alike, each under its own name. -/
theorem Described.alike
    {e : Errno}
    {s t : SystemCall}
    {told other : Option String}
    (hDescribed : Described e s told)
    (hOther : Described e t other)
    (hResolution : e ∈ Errno.pathResolution) :
    ∃ before after,
      told = some (before ++ s.name ++ after) ∧
        other = some (before ++ t.name ++ after) := by
  have hFailed : e ≠ .success := by
    rintro rfl
    exact absurd hResolution (by decide)
  rcases exists_around_name e hResolution with
    ⟨before, after, hText⟩
  refine ⟨before, after, ?_, ?_⟩
  · rw [hDescribed.eq_text hFailed, hText]
  · rw [hOther.eq_text hFailed, hText]

end Explain

end CallDiagnosis

------------------------------------------------------------
-- Agreement of Both Explanations
------------------------------------------------------------

namespace CallDiagnosis

namespace Explain

/- What is told of a link that leads nowhere. -/
def danglingSentence
    (path : String) :
    String :=
  s!"symbolic link '{path}' points to a target " ++
    "that does not exist"

/- What is told of a step of some kind in place of a file. -/
def mistakenSentence
    (path : String)
    (kind : FileKind) :
    String :=
  s!"path '{path}' is a {kind.noun}, " ++ "not a file"

variable {σ : Type}
variable (host : Host surroundings σ)
variable (level : Log.Level)
variable (state other : σ)
variable (c : Context)
variable (e : Errno)
variable (path : String)

/-
  What the walks for both calls and their explanations have to
  do with each other.  The walks are told apart only where the
  last step is there, and then only one of them tells it.
-/
structure Agreement
    (followed kept : Option Diagnosis)
    (told keptTold : Option String) :
    Prop where
  alike :
    followed.map Diagnosis.text = kept.map Diagnosis.text ↔
      ¬ ∃ last status,
        Walk.Finds host state c.signals
            (Path.components (c.resolve path)) last status ∧
          Walk.FollowingMatters e status
  dangling :
    ∀ last status,
      Walk.Finds host state c.signals
        (Path.components (c.resolve path)) last status →
      e = .enoent → status.kind = .symlink →
      followed.map Diagnosis.text =
          some
            (danglingSentence
              (Path.reach (Path.components (c.resolve path))
                (last + 1))) ∧
        kept = none
  mistaken :
    ∀ last status,
      Walk.Finds host state c.signals
        (Path.components (c.resolve path)) last status →
      e = .enotdir → status.kind ≠ .regular →
      status.kind ≠ .symlink →
      followed.map Diagnosis.text =
          some
            (mistakenSentence
              (Path.reach (Path.components (c.resolve path))
                (last + 1))
              status.kind) ∧
        kept = none
  fromFollowed :
    ∀ diagnosis,
      followed = some diagnosis → told = some diagnosis.text
  fromKept :
    ∀ left, kept = some left → keptTold = some left.text
  both :
    ∀ diagnosis left,
      followed = some diagnosis → kept = some left →
      diagnosis.text = left.text ∧ told = keptTold
  neither :
    followed = none → kept = none →
    ∃ before after,
      told = some (before ++ "stat(2)" ++ after) ∧
        keptTold = some (before ++ "lstat(2)" ++ after)

/-
  Where following a link matters, one walk has a sentence for
  the last step and the other one tells nothing.
-/
theorem told_of_followingMatters
    (followed kept : Option Diagnosis)
    (hPath : path ≠ "")
    (hFollowed :
      ((walk c e path .wantSearch .regular).run
          host level state).value =
        .ok followed)
    (hKept :
      ((walk c e path .wantSearch .unspecified).run
          host level state).value =
        .ok kept)
    (last : Nat)
    (status : FileStatus)
    (hFinds :
      Walk.Finds host state c.signals
        (Path.components (c.resolve path)) last status)
    (hMatters : Walk.FollowingMatters e status) :
    kept = none ∧
      (e = .enoent → status.kind = .symlink →
        followed.map Diagnosis.text =
          some
            (danglingSentence
              (Path.reach (Path.components (c.resolve path))
                (last + 1)))) ∧
      (e = .enotdir → status.kind ≠ .regular →
        status.kind ≠ .symlink →
        followed.map Diagnosis.text =
          some
            (mistakenSentence
              (Path.reach (Path.components (c.resolve path))
                (last + 1))
              status.kind)) := by
  have hErrno := hMatters.errno
  have hNone :=
    Walk.value_walk_unspecified host level state c e path last
      status hPath hErrno.1 hErrno.2 hFinds
  rw [hKept, Except.ok.injEq] at hNone
  rcases
      Walk.foundSentence_walk host level state c e path
        .wantSearch .regular last status hPath hErrno.1
        hErrno.2 hFinds with
    ⟨found, hFound, hSentence⟩
  rw [hFollowed, Except.ok.injEq] at hFound
  subst hFound
  refine ⟨hNone, ?_, ?_⟩
  · intro hErrno hLink
    exact hSentence.eq_dangling ⟨hLink, hErrno, .inl rfl⟩
  · intro hErrno hKind hLink
    have hNoun :
        s!"not a {ExpectedKind.regular.noun}" =
          "not a file" := by
      decide
    rw [hSentence.eq_wrongKind (by decide)
        ⟨hLink, .inr hErrno, .regular, rfl, hKind⟩,
      hNoun]
    rfl

/-
  If every question has one answer, the failures of both calls
  on one path are explained from the same calls.  After any
  error that resolving a path can raise, their walks tell the
  same, unless the last step is there and following a link
  matters to it; then only the call that follows links is told
  so.  What the explanations say agrees in the same way, and
  where both walks are silent only the name of the call is
  another one.
-/
theorem stat_agrees_with_lstat
    (hSteady : host.Steady)
    (hPath : path ≠ "")
    (hResolution : e ∈ Errno.pathResolution) :
    ∃ followed kept told keptTold,
      ((walk c e path .wantSearch .regular).run
          host level state).value =
        .ok followed ∧
      ((walk c e path .wantSearch .unspecified).run
          host level other).value =
        .ok kept ∧
      ((stat c e (.stat path)).run host level state).value =
        .ok ⟨.stat, s!"path = '{path}'", told⟩ ∧
      ((lstat c e (.lstat path)).run host level other).value =
        .ok ⟨.lstat, s!"path = '{path}'", keptTold⟩ ∧
      ((walk c e path .wantSearch .regular).run
          host level state).exchanges =
        ((walk c e path .wantSearch .unspecified).run
          host level other).exchanges ∧
      ((stat c e (.stat path)).run
          host level state).exchanges =
        ((walk c e path .wantSearch .regular).run
          host level state).exchanges ∧
      ((lstat c e (.lstat path)).run
          host level other).exchanges =
        ((walk c e path .wantSearch .unspecified).run
          host level other).exchanges ∧
      Agreement host state c e path followed kept told
        keptTold := by
  rcases
      (Walk.matched_walk e c path hPath).run host level state
    with
    ⟨⟨followed, kept, hFollowed, hKept, hBoth⟩, hExchanges⟩
  -- The other walk might as well start where the first does.
  rcases
      Inquiry.run_of_steady hSteady
        (walk c e path .wantSearch .unspecified) level state
        other with
    ⟨hValue, hAsked⟩
  rw [hValue] at hKept
  rw [hAsked] at hExchanges
  rcases
      fallback_withPath host level state c e .stat path
        .wantSearch .regular (pathText path) hPath with
    ⟨told, hTold, hFallback⟩
  rcases
      fallback_withPath host level other c e .lstat path
        .wantSearch .unspecified (pathText path) hPath with
    ⟨keptTold, hKeptTold, hKeptFallback⟩
  rcases hFallback.of_walk hResolution hFollowed with
    ⟨hStatAsked, hStat, hStatSilent⟩
  rcases hKeptFallback.of_walk hResolution hKept with
    ⟨hLstatAsked, hLstat, hLstatSilent⟩
  refine
    ⟨followed, kept, told, keptTold, hFollowed, hKept, hTold,
      hKeptTold, hExchanges, hStatAsked, hLstatAsked, ?_⟩
  rw [← hValue] at hKept
  constructor
  case alike =>
    exact
      Walk.told_alike_iff host level state c e path followed
        kept hPath hFollowed hKept
  case dangling =>
    intro last status hFinds hErrno hLink
    rcases
        told_of_followingMatters host level state c e path
          followed kept hPath hFollowed hKept last status
          hFinds (.inl ⟨hErrno, hLink⟩) with
      ⟨hNone, hDangling, -⟩
    exact ⟨hDangling hErrno hLink, hNone⟩
  case mistaken =>
    intro last status hFinds hErrno hKind hLink
    rcases
        told_of_followingMatters host level state c e path
          followed kept hPath hFollowed hKept last status
          hFinds (.inr ⟨hErrno, hKind, hLink⟩) with
      ⟨hNone, -, hMistaken⟩
    exact ⟨hMistaken hErrno hKind hLink, hNone⟩
  case fromFollowed => exact hStat
  case fromKept => exact hLstat
  case both =>
    rintro diagnosis left rfl rfl
    have hText := hBoth.text_eq
    refine ⟨hText, ?_⟩
    rw [hStat diagnosis rfl, hLstat left rfl, hText]
  case neither =>
    intro hSilent hKeptSilent
    exact
      (hStatSilent hSilent).alike (hLstatSilent hKeptSilent)
        hResolution

/- A link that leads nowhere, where nothing ever changes. -/
def linkTree : Scenario :=
  ⟨[("/", [.ok ⟨.directory, 0o755, 0, 0⟩]),
    ("/srv", [.ok ⟨.directory, 0o755, 0, 0⟩]),
    ("/srv/link", [.ok ⟨.symlink, 0o777, 0, 0⟩])],
    500, .standard⟩

theorem components_link :
    Path.components (Walk.rootContext.resolve "/srv/link") =
      ["/", "srv", "link"] := by
  decide

theorem finds_linkTree :
    Walk.Finds linkTree.still 0 .idle ["/", "srv", "link"] 2
      ⟨.symlink, 0o777, 0, 0⟩ := by
  refine ⟨rfl, ?_, rfl⟩
  intro i hi
  match i with
  | 0 => exact ⟨_, rfl, .inl rfl⟩
  | 1 => exact ⟨_, rfl, .inl rfl⟩

/- Only the call that follows the link is told of it. -/
theorem stat_agrees_with_lstat_of_linkTree :
    linkTree.still.Steady ∧
    "/srv/link" ≠ "" ∧
    Errno.enoent ∈ Errno.pathResolution ∧
    ((stat Walk.rootContext .enoent (.stat "/srv/link")).run
        linkTree.still .off 0).value.map
          Explanation.diagnosis =
      .ok
        (some
          ("symbolic link '/srv/link' points to a target " ++
            "that does not exist")) ∧
    ((walk Walk.rootContext .enoent "/srv/link" .wantSearch
        .unspecified).run linkTree.still .off 7).value =
      .ok none := by
  have hPath : "/srv/link" ≠ "" := by decide
  have hResolution : Errno.enoent ∈ Errno.pathResolution := by
    decide
  rcases
      stat_agrees_with_lstat linkTree.still .off 0 7
        Walk.rootContext .enoent "/srv/link"
        linkTree.still_steady hPath hResolution with
    ⟨followed, kept, told, keptTold, -, hKept, hTold, -, -, -,
      -, hAgreement⟩
  have hDangling := hAgreement.dangling
  rw [components_link] at hDangling
  rcases hDangling 2 _ finds_linkTree rfl rfl with
    ⟨hText, rfl⟩
  refine
    ⟨linkTree.still_steady, hPath, hResolution, ?_, hKept⟩
  cases followed with
  | none => contradiction
  | some diagnosis =>
      rw [hTold, hAgreement.fromFollowed diagnosis rfl]
      rw [Option.map_some] at hText
      have hSentence :
          danglingSentence
              (Path.reach ["/", "srv", "link"] 3) =
            "symbolic link '/srv/link' points to a target " ++
              "that does not exist" := by
        decide
      rw [← hSentence]
      exact congrArg Except.ok hText

end Explain

end CallDiagnosis
