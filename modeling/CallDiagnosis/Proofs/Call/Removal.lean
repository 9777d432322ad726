import CallDiagnosis.Proofs.Call.Fallback
import CallDiagnosis.Proofs.Walk.Obstacle
import Mathlib.Logic.Basic

/-
  What is told of a file that was not removed.

  Key definitions include:
    * `CallDiagnosis.Removal.OfDirectory`
    * `CallDiagnosis.Removal.Guarded`
    * `CallDiagnosis.Removal.Looked`
    * `CallDiagnosis.Removal.Blamed`
    * `CallDiagnosis.Removal.Told`

  Key theorems include:
    * `CallDiagnosis.Removal.blamed_search`
    * `CallDiagnosis.Explain.unlink_tells_directory_or_sticky`

  A removal that was not permitted is told by the file: a
  directory is never removed by this call, and in a sticky
  directory only some users may remove a file.  The file, the
  directory above it and the user are asked for in this order,
  each only if it is needed, and any of the answers may be
  missing.  What is said of a sticky directory is said exactly
  if the user was none of those who may remove the file.
-/

------------------------------------------------------------
-- What Is Seen of a Removal
------------------------------------------------------------

namespace CallDiagnosis

namespace Removal

variable {σ : Type}
variable (host : Host surroundings σ)
variable (state : σ)
variable (path : String)

/- What the first look shows, at the file itself. -/
def fileSeen : Except Errno FileStatus × σ :=
  host.answer (.probe path) state

/- What the second look shows, at the directory above it. -/
def aboveSeen : Except Errno FileStatus × σ :=
  host.answer (.probe (Path.containing path))
    (fileSeen host state path).2

/- The user for whom permissions are checked after that. -/
def userSeen : UInt32 × σ :=
  host.answer .effectiveUid (aboveSeen host state path).2

/- The errors that can come from what a file is. -/
def FromFile
    (e : Errno) :
    Prop :=
  e = .eperm ∨ e = .eisdir

instance
    (e : Errno) :
    Decidable (FromFile e) :=
  inferInstanceAs (Decidable (e = .eperm ∨ e = .eisdir))

/- What was to be removed shows as a directory. -/
structure OfDirectory
    (e : Errno) :
    Prop where
  errno : FromFile e
  shown :
    ∃ file,
      (fileSeen host state path).1 = .ok file ∧
        file.kind = .directory

/-
  What was to be removed shows as something else, in a sticky
  directory, and the user neither is the superuser nor owns
  the directory or the file.
-/
structure Guarded
    (e : Errno)
    (file directory : FileStatus) :
    Prop where
  errno : FromFile e
  fileShown : (fileSeen host state path).1 = .ok file
  fileKind : file.kind ≠ .directory
  aboveShown : (aboveSeen host state path).1 = .ok directory
  sticky : directory.Sticky
  notSuperuser : (userSeen host state path).1 ≠ 0
  notAboveOwner :
    (userSeen host state path).1 ≠ directory.uid
  notFileOwner : (userSeen host state path).1 ≠ file.uid

/-
  The state in which the looks of a removal leave the host,
  and what was asked for them.
-/
inductive Looked
    (e : Errno) :
    σ → List (Exchange surroundings) → Prop where
| unasked
    (hErrno : ¬ FromFile e) :
    Looked e state []
| file
    (hErrno : FromFile e)
    (hEnough :
      ∀ file,
        (fileSeen host state path).1 = .ok file →
        file.kind = .directory) :
    Looked e (fileSeen host state path).2
      [⟨.probe path, (fileSeen host state path).1⟩]
| above
    (hErrno : FromFile e)
    (file : FileStatus)
    (hFile : (fileSeen host state path).1 = .ok file)
    (hKind : file.kind ≠ .directory)
    (reason : Errno)
    (hAbove : (aboveSeen host state path).1 = .error reason) :
    Looked e (aboveSeen host state path).2
      [⟨.probe path, (fileSeen host state path).1⟩,
        ⟨.probe (Path.containing path),
          (aboveSeen host state path).1⟩]
| user
    (hErrno : FromFile e)
    (file directory : FileStatus)
    (hFile : (fileSeen host state path).1 = .ok file)
    (hKind : file.kind ≠ .directory)
    (hAbove : (aboveSeen host state path).1 = .ok directory) :
    Looked e (userSeen host state path).2
      [⟨.probe path, (fileSeen host state path).1⟩,
        ⟨.probe (Path.containing path),
          (aboveSeen host state path).1⟩,
        ⟨.effectiveUid, (userSeen host state path).1⟩]

/- What the looks of a removal put the blame on. -/
inductive Blamed
    (e : Errno) :
    Option Diagnosis → Prop where
| directory
    (hDirectory : OfDirectory host state path e) :
    Blamed e (some (.unlinkedDirectory path))
| sticky
    (file directory : FileStatus)
    (hGuarded : Guarded host state path e file directory) :
    Blamed e
      (some
        (.stickyDirectory (Path.containing path) path
          file.uid))
| nothing
    (hFile : ¬ OfDirectory host state path e)
    (hFree :
      ∀ file directory,
        ¬ Guarded host state path e file directory) :
    Blamed e none

variable {host : Host surroundings σ}
variable {state : σ}
variable {path : String}
variable {e : Errno}
variable {file directory : FileStatus}

/- There is only one thing that shows. -/
theorem OfDirectory.kind
    (hDirectory : OfDirectory host state path e)
    (hFile : (fileSeen host state path).1 = .ok file) :
    file.kind = .directory := by
  rcases hDirectory.shown with ⟨shown, hShown, hKind⟩
  rw [hFile, Except.ok.injEq] at hShown
  rw [hShown]
  exact hKind

/- No directory guards another directory. -/
theorem OfDirectory.not_guarded
    (hDirectory : OfDirectory host state path e) :
    ¬ ∃ file directory,
      Guarded host state path e file directory := by
  rintro ⟨file, directory, hGuarded⟩
  exact
    hGuarded.fileKind (hDirectory.kind hGuarded.fileShown)

/- It is one file that is guarded. -/
theorem Guarded.file_unique
    {other above : FileStatus}
    (hGuarded : Guarded host state path e file directory)
    (hOther : Guarded host state path e other above) :
    file = other := by
  have hShown := hGuarded.fileShown
  rw [hOther.fileShown, Except.ok.injEq] at hShown
  exact hShown.symm

end Removal

end CallDiagnosis

------------------------------------------------------------
-- The Search for Blame
------------------------------------------------------------

namespace CallDiagnosis

namespace Removal

/- The search for blame that only this call can earn. -/
def search
    (c : Context)
    (e : Errno)
    (path : String) :
    Consult (Option Diagnosis) :=
  if FromFile e then Explain.unlinkRefused c path else pure none

variable {σ : Type}
variable (host : Host surroundings σ)
variable (level : Log.Level)
variable (state : σ)
variable (c : Context)
variable (e : Errno)
variable (path : String)

/- A file that cannot be looked at leaves nothing to blame. -/
theorem run_unlinkRefused_unseen
    (reason : Errno)
    (hFile :
      (fileSeen host state (c.resolve path)).1 =
        .error reason) :
    (Explain.unlinkRefused c path).run host level state =
      ⟨none, (fileSeen host state (c.resolve path)).2,
        [⟨.probe (c.resolve path),
          (fileSeen host state (c.resolve path)).1⟩], []⟩ := by
  unfold fileSeen at hFile ⊢
  unfold Explain.unlinkRefused
  simp only [Inquiry.run_bind, Consult.run_probe, hFile]
  rfl

/- A directory is to blame itself. -/
theorem run_unlinkRefused_directory
    (file : FileStatus)
    (hFile :
      (fileSeen host state (c.resolve path)).1 = .ok file)
    (hKind : file.kind = .directory) :
    (Explain.unlinkRefused c path).run host level state =
      ⟨some (.unlinkedDirectory (c.resolve path)),
        (fileSeen host state (c.resolve path)).2,
        [⟨.probe (c.resolve path),
          (fileSeen host state (c.resolve path)).1⟩], []⟩ := by
  unfold fileSeen at hFile ⊢
  unfold Explain.unlinkRefused
  simp only [Inquiry.run_bind, Consult.run_probe, hFile,
    if_pos hKind]
  rfl

section Kept

variable (file : FileStatus)
variable
  (hFile :
    (fileSeen host state (c.resolve path)).1 = .ok file)
variable (hKind : file.kind ≠ .directory)

include hFile hKind

/- So does a directory above it that cannot be looked at. -/
theorem run_unlinkRefused_above
    (reason : Errno)
    (hAbove :
      (aboveSeen host state (c.resolve path)).1 =
        .error reason) :
    (Explain.unlinkRefused c path).run host level state =
      ⟨none, (aboveSeen host state (c.resolve path)).2,
        [⟨.probe (c.resolve path),
            (fileSeen host state (c.resolve path)).1⟩,
          ⟨.probe (Path.containing (c.resolve path)),
            (aboveSeen host state (c.resolve path)).1⟩],
        []⟩ := by
  unfold aboveSeen at hAbove ⊢
  unfold fileSeen at hFile hAbove ⊢
  unfold Explain.unlinkRefused
  simp only [Inquiry.run_bind, Consult.run_probe, hFile,
    if_neg hKind, hAbove]
  rfl

/-
  Otherwise the user is asked for, and the directory is to
  blame exactly if it guards the file against this user.
-/
theorem run_unlinkRefused_user
    (hErrno : FromFile e)
    (directory : FileStatus)
    (hAbove :
      (aboveSeen host state (c.resolve path)).1 =
        .ok directory)
    [Decidable
      (Guarded host state (c.resolve path) e file directory)] :
    (Explain.unlinkRefused c path).run host level state =
      ⟨if Guarded host state (c.resolve path) e file
            directory then
          some
            (.stickyDirectory
              (Path.containing (c.resolve path))
              (c.resolve path) file.uid)
        else
          none,
        (userSeen host state (c.resolve path)).2,
        [⟨.probe (c.resolve path),
            (fileSeen host state (c.resolve path)).1⟩,
          ⟨.probe (Path.containing (c.resolve path)),
            (aboveSeen host state (c.resolve path)).1⟩,
          ⟨.effectiveUid,
            (userSeen host state (c.resolve path)).1⟩],
        []⟩ := by
  have hBarred :
      (directory.Sticky ∧
          (userSeen host state (c.resolve path)).1 ≠ 0 ∧
          (userSeen host state (c.resolve path)).1 ≠
            directory.uid ∧
          (userSeen host state (c.resolve path)).1 ≠
            file.uid) ↔
        Guarded host state (c.resolve path) e file
          directory := by
    constructor
    · rintro ⟨hSticky, hUser, hStranger, hOther⟩
      exact
        ⟨hErrno, hFile, hKind, hAbove, hSticky, hUser,
          hStranger, hOther⟩
    · intro hGuarded
      exact
        ⟨hGuarded.sticky, hGuarded.notSuperuser,
          hGuarded.notAboveOwner, hGuarded.notFileOwner⟩
  rw [hFile, hAbove]
  unfold aboveSeen at hAbove
  unfold fileSeen at hFile hAbove
  unfold Explain.unlinkRefused
  simp only [Inquiry.run_bind, Consult.run_probe, hFile,
    if_neg hKind, hAbove, Inquiry.run_ite_pure]
  exact congrArg (Run.mk · _ _ _) (if_congr hBarred rfl rfl)

end Kept

/-
  The search looks as the rules say and blames what they say.
  The cases follow the answers, of which each later one is
  needed only if those before it leave the matter open.
-/
theorem blamed_search :
    Looked host state (c.resolve path) e
        ((search c e path).run host level state).state
        ((search c e path).run host level state).exchanges ∧
      Blamed host state (c.resolve path) e
        ((search c e path).run host level state).value := by
  unfold search
  by_cases hErrno : FromFile e
  case neg =>
    rw [if_neg hErrno]
    exact
      ⟨.unasked hErrno,
        .nothing (fun hDirectory => hErrno hDirectory.errno)
          (fun _ _ hGuarded => hErrno hGuarded.errno)⟩
  case pos =>
    rw [if_pos hErrno]
    cases hFile :
        (fileSeen host state (c.resolve path)).1 with
    | error reason =>
        rw [run_unlinkRefused_unseen host level state c path
          reason hFile]
        refine ⟨.file hErrno (by simp [hFile]), .nothing ?_ ?_⟩
        · rintro ⟨-, file, hShown, -⟩
          rw [hFile] at hShown
          contradiction
        · intro file directory hGuarded
          have hShown := hGuarded.fileShown
          rw [hFile] at hShown
          contradiction
    | ok file =>
        by_cases hKind : file.kind = .directory
        case pos =>
          rw [run_unlinkRefused_directory host level state c
            path file hFile hKind]
          refine
            ⟨.file hErrno ?_,
              .directory ⟨hErrno, file, hFile, hKind⟩⟩
          intro shown hShown
          rw [hFile, Except.ok.injEq] at hShown
          rw [← hShown]
          exact hKind
        case neg =>
          have hNoDirectory :
              ¬ OfDirectory host state (c.resolve path) e := by
            intro hDirectory
            exact hKind (hDirectory.kind hFile)
          cases hAbove :
              (aboveSeen host state (c.resolve path)).1 with
          | error reason =>
              rw [run_unlinkRefused_above host level state c
                path file hFile hKind reason hAbove]
              refine
                ⟨.above hErrno file hFile hKind reason hAbove,
                  .nothing hNoDirectory ?_⟩
              intro shown directory hGuarded
              have hShown := hGuarded.aboveShown
              rw [hAbove] at hShown
              contradiction
          | ok directory =>
              classical
              rw [run_unlinkRefused_user host level state c e
                path file hFile hKind hErrno directory hAbove]
              refine
                ⟨.user hErrno file directory hFile hKind
                  hAbove, ?_⟩
              split_ifs with hGuarded
              · exact .sticky file directory hGuarded
              · refine .nothing hNoDirectory ?_
                intro shown above hOther
                have hShown := hOther.fileShown
                have hShownAbove := hOther.aboveShown
                rw [hFile, Except.ok.injEq] at hShown
                rw [hAbove, Except.ok.injEq] at hShownAbove
                subst hShown hShownAbove
                exact hGuarded hOther

end Removal

end CallDiagnosis

------------------------------------------------------------
-- Explanations of Removals
------------------------------------------------------------

namespace CallDiagnosis

namespace Removal

/- What is told of a directory that is not removed. -/
def directorySentence
    (path : String) :
    String :=
  s!"'{path}' is a directory, which unlink(2) " ++
    "does not remove"

/- What is told of a file that a sticky directory guards. -/
def stickySentence
    (directory path : String)
    (owner : UInt32) :
    String :=
  s!"directory '{directory}' has the sticky bit set and " ++
    s!"'{path}' is owned by UID {owner.toNat}, so only " ++
    "that user or the directory owner may remove it"

/- The two are never the same. -/
theorem directorySentence_ne_stickySentence
    (path directory file : String)
    (owner : UInt32) :
    directorySentence path ≠
      stickySentence directory file owner :=
  (Diagnosis.endsIn_unlinkedDirectory path).ne
    (Diagnosis.endsIn_stickyDirectory directory file owner)
    (by decide)

section Obligations

variable {σ : Type}
variable (host : Host surroundings σ)
variable (level : Log.Level)
variable (state : σ)
variable (c : Context)
variable (e : Errno)
variable (path : String)

/-
  What has to be told of a removal, and what may be asked for
  it once the looks have left the host in a later state.  Both
  sentences name the place that the path leads to.
-/
structure Told
    (later : σ)
    (told : Option String)
    (rest : List (Exchange surroundings)) :
    Prop where
  directory :
    told = some (directorySentence (c.resolve path)) ↔
      OfDirectory host state (c.resolve path) e
  sticky :
    (∃ directory file owner,
        told = some (stickySentence directory file owner)) ↔
      ∃ file directory,
        Guarded host state (c.resolve path) e file directory
  stickyNamed :
    ∀ file directory,
      Guarded host state (c.resolve path) e file directory →
      told =
        some
          (stickySentence (Path.containing (c.resolve path))
            (c.resolve path) file.uid)
  enough :
    OfDirectory host state (c.resolve path) e ∨
      (∃ file directory,
        Guarded host state (c.resolve path) e file
          directory) →
    rest = []
  otherwise :
    ¬ OfDirectory host state (c.resolve path) e →
    (¬ ∃ file directory,
      Guarded host state (c.resolve path) e file directory) →
    Explain.Fallback host level later c e .unlink path
      (.wantUnlink ||| .mustExist) .regular told rest

variable {host : Host surroundings σ}
variable {level : Log.Level}
variable {state : σ}
variable {c : Context}
variable {e : Errno}
variable {path : String}
variable (later : σ)

/- Where a directory shows, it is to blame. -/
theorem Told.of_directory
    (hDirectory :
      OfDirectory host state (c.resolve path) e) :
    Told host level state c e path later
      (some (directorySentence (c.resolve path))) [] := by
  have hUnguarded := hDirectory.not_guarded
  constructor
  case directory =>
    exact iff_of_true rfl hDirectory
  case sticky =>
    apply iff_of_false
    · rintro ⟨directory, file, owner, hSticky⟩
      exact
        directorySentence_ne_stickySentence _ _ _ _
          (Option.some.inj hSticky)
    · exact hUnguarded
  case stickyNamed =>
    intro file directory hGuarded
    exact absurd ⟨file, directory, hGuarded⟩ hUnguarded
  case enough =>
    intro _
    rfl
  case otherwise =>
    intro hFile
    exact absurd hDirectory hFile

/- Where a sticky directory guards a file, both are named. -/
theorem Told.of_guarded
    {file directory : FileStatus}
    (hGuarded :
      Guarded host state (c.resolve path) e file directory) :
    Told host level state c e path later
      (some
        (stickySentence (Path.containing (c.resolve path))
          (c.resolve path) file.uid))
      [] := by
  constructor
  case directory =>
    apply iff_of_false
    · intro hUnlinked
      exact
        (directorySentence_ne_stickySentence _ _ _ _).symm
          (Option.some.inj hUnlinked)
    · intro hDirectory
      exact hDirectory.not_guarded ⟨_, _, hGuarded⟩
  case sticky =>
    exact
      iff_of_true ⟨_, _, _, rfl⟩ ⟨file, directory, hGuarded⟩
  case stickyNamed =>
    intro other above hOther
    rw [hOther.file_unique hGuarded]
  case enough =>
    intro _
    rfl
  case otherwise =>
    intro _ hFree
    exact absurd ⟨file, directory, hGuarded⟩ hFree

/- Where nothing is to blame, the path is walked. -/
theorem Told.of_fallback
    {later : σ}
    {told : Option String}
    {rest : List (Exchange surroundings)}
    (hFile : ¬ OfDirectory host state (c.resolve path) e)
    (hFree :
      ∀ file directory,
        ¬ Guarded host state (c.resolve path) e file
          directory)
    (hFallback :
      Explain.Fallback host level later c e .unlink path
        (.wantUnlink ||| .mustExist) .regular told rest) :
    Told host level state c e path later told rest := by
  have hDirectory (named : String) :
      told ≠ some (Diagnosis.unlinkedDirectory named).text :=
    hFallback.ne_of_ofCall trivial
  have hSticky (directory file : String) (owner : UInt32) :
      told ≠
        some
          (Diagnosis.stickyDirectory directory file
            owner).text :=
    hFallback.ne_of_ofCall trivial
  constructor
  case directory =>
    exact iff_of_false (hDirectory _) hFile
  case sticky =>
    apply iff_of_false
    · rintro ⟨directory, file, owner, hTold⟩
      exact hSticky directory file owner hTold
    · rintro ⟨file, directory, hGuarded⟩
      exact hFree file directory hGuarded
  case stickyNamed =>
    intro file directory hGuarded
    exact absurd hGuarded (hFree file directory)
  case enough =>
    rintro (hShown | ⟨file, directory, hGuarded⟩)
    · exact absurd hShown hFile
    · exact absurd hGuarded (hFree file directory)
  case otherwise =>
    intro _ _
    exact hFallback

end Obligations

end Removal

namespace Explain

variable {σ : Type}
variable (host : Host surroundings σ)
variable (level : Log.Level)
variable (state : σ)
variable (c : Context)
variable (e : Errno)
variable (path : String)

theorem unlinkFinding_eq :
    unlinkFinding c e path =
      orWalk (Removal.search c e path) c e .unlink path
        (.wantUnlink ||| .mustExist) .regular := by
  unfold unlinkFinding Removal.search
  by_cases hErrno : Removal.FromFile e
  · rw [if_pos hErrno]
    exact if_pos hErrno
  · rw [if_neg hErrno]
    exact if_neg hErrno

/-
  Against any host, a removal of a path that is not empty is
  told by the file exactly if it was not permitted and the
  first look shows a directory there.  It is told by the
  sticky bit exactly if it was not permitted, the first look
  shows something else, the second look shows a sticky
  directory above it, and the user is not one of the three
  who may remove the file.  In all other cases the path is
  walked down afresh, or the error described in general.
-/
theorem unlink_tells_directory_or_sticky
    (hPath : path ≠ "") :
    ∃ told later looks rest,
      ((unlink c e (.unlink path)).run
          host level state).value =
        .ok ⟨.unlink, s!"path = '{path}'", told⟩ ∧
      ((unlink c e (.unlink path)).run
          host level state).exchanges =
        looks ++ rest ∧
      Removal.Looked host state (c.resolve path) e later
        looks ∧
      Removal.Told host level state c e path later told
        rest := by
  rcases
      Removal.blamed_search host level state c e path with
    ⟨hLooked, hBlamed⟩
  rcases
      run_withPath_orWalk host level state c e .unlink path
        (.wantUnlink ||| .mustExist) .regular (pathText path)
        (Removal.search c e path) hPath with
    ⟨told, rest, hValue, hExchanges, hOwn, hRest⟩
  rw [← unlinkFinding_eq] at hValue hExchanges
  refine
    ⟨told, _, _, rest, hValue, hExchanges, hLooked, ?_⟩
  generalize
    ((Removal.search c e path).run host level state).value =
      blame at hBlamed hOwn hRest
  cases hBlamed with
  | directory hDirectory =>
      rcases hOwn _ rfl with ⟨rfl, rfl⟩
      exact .of_directory _ hDirectory
  | sticky file directory hGuarded =>
      rcases hOwn _ rfl with ⟨rfl, rfl⟩
      exact .of_guarded _ hGuarded
  | nothing hFile hFree =>
      exact .of_fallback hFile hFree (hRest rfl)

/- A sticky directory with a file of another user in it. -/
def lockTree : Scenario :=
  ⟨[("/", [.ok ⟨.directory, 0o755, 0, 0⟩]),
    ("/tmp", [.ok ⟨.directory, 0o1777, 0, 0⟩]),
    ("/tmp/other.lock", [.ok ⟨.regular, 0o644, 1000, 1000⟩])],
    500, .standard⟩

theorem guarded_lockTree :
    Removal.Guarded Scenario.host lockTree "/tmp/other.lock"
      .eperm ⟨.regular, 0o644, 1000, 1000⟩
      ⟨.directory, 0o1777, 0, 0⟩ :=
  ⟨.inl rfl, rfl, by decide, rfl, by decide, by decide,
    by decide, by decide⟩

/- A stranger to both cannot remove the file. -/
theorem unlink_tells_directory_or_sticky_of_lockTree :
    "/tmp/other.lock" ≠ "" ∧
    ((unlink Walk.rootContext .eperm
        (.unlink "/tmp/other.lock")).run Scenario.host .off
          lockTree).value.map Explanation.diagnosis =
      .ok
        (some
          ("directory '/tmp' has the sticky bit set and " ++
            "'/tmp/other.lock' is owned by UID 1000, so " ++
            "only that user or the directory owner may " ++
            "remove it")) := by
  have hPath : "/tmp/other.lock" ≠ "" := by decide
  have hPlace :
      Walk.rootContext.resolve "/tmp/other.lock" =
        "/tmp/other.lock" := by
    decide
  rcases
      unlink_tells_directory_or_sticky Scenario.host .off
        lockTree Walk.rootContext .eperm "/tmp/other.lock"
        hPath with
    ⟨told, later, looks, rest, hValue, -, -, hRules⟩
  have hSticky := hRules.stickyNamed
  rw [hPlace] at hSticky
  have hTold := hSticky _ _ guarded_lockTree
  have hText :
      Removal.stickySentence
          (Path.containing "/tmp/other.lock")
          "/tmp/other.lock" 1000 =
        "directory '/tmp' has the sticky bit set and " ++
          "'/tmp/other.lock' is owned by UID 1000, so " ++
          "only that user or the directory owner may " ++
          "remove it" := by
    decide
  refine ⟨hPath, ?_⟩
  rw [hValue, hTold, ← hText]
  rfl

end Explain

end CallDiagnosis
