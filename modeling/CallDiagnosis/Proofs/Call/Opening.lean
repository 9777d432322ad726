import CallDiagnosis.Proofs.Call.Fallback
import CallDiagnosis.Proofs.Walk.Leaf
import Mathlib.Logic.Basic

/-
  What is told of a file that was not opened.

  Key definitions include:
    * `CallDiagnosis.Opening.Mutating`
    * `CallDiagnosis.Opening.Searched`
    * `CallDiagnosis.Opening.Told`

  Key theorems include:
    * `CallDiagnosis.Opening.wantsMutation_intent_iff`
    * `CallDiagnosis.Opening.searched_search`
    * `CallDiagnosis.Explain.open_tells_directory_or_readOnly`

  An opening that could change something has two sentences of
  its own, one for a directory and one for a filesystem that
  is only read.  Whether it could is read off the flag word,
  by way of the wishes that the word stands for.  One look is
  made for the first sentence and none for the second, and no
  other opening is looked into before its path is walked down.
-/

------------------------------------------------------------
-- Openings that Could Change Something
------------------------------------------------------------

namespace CallDiagnosis

namespace Intent

theorem meets_comm
    (i j : Intent) :
    i.Meets j ↔ j.Meets i := by
  unfold Meets
  rw [UInt32.and_comm]

/- One of two sets has a wish in common if both together do. -/
theorem or_meets
    (i j k : Intent) :
    (i ||| j).Meets k ↔ i.Meets k ∨ j.Meets k := by
  rw [meets_comm, meets_or, meets_comm k i, meets_comm k j]

end Intent

namespace Opening

/-
  The flags open a file for more than reading, or create it,
  or cut it short.
-/
def Mutating
    (flags : Int32) :
    Prop :=
  AccessMode.ofFlags flags ≠ .readOnly ∨
    OpenFlag.create.IsSet flags ∨
    OpenFlag.truncate.IsSet flags

/- All that would change a file or what contains it. -/
def changes : Intent :=
  .wantWrite ||| .wantCreate ||| .wantModify ||| .wantUnlink

theorem accessIntent_meets_changes
    (mode : AccessMode) :
    (OpenFlags.accessIntent mode).Meets changes ↔
      mode ≠ .readOnly := by
  cases mode <;> decide

theorem creationIntent_meets_changes
    (flags : Int32) :
    (OpenFlags.creationIntent flags).Meets changes ↔
      OpenFlag.create.IsSet flags := by
  unfold OpenFlags.creationIntent
  split_ifs with hCreate hExclusive
  · exact iff_of_true (by decide) hCreate
  · exact iff_of_true (by decide) hCreate
  · exact iff_of_false (by decide) hCreate

theorem truncationIntent_meets_changes
    (flags : Int32) :
    (OpenFlags.truncationIntent flags).Meets changes ↔
      OpenFlag.truncate.IsSet flags := by
  unfold OpenFlags.truncationIntent
  split_ifs with hTruncate
  · exact iff_of_true (by decide) hTruncate
  · exact iff_of_false (by decide) hTruncate

/- For every flag word, the wishes say what the flags say. -/
theorem wantsMutation_intent_iff
    (flags : Int32) :
    (OpenFlags.intent flags).WantsMutation ↔
      Mutating flags := by
  change (OpenFlags.intent flags).Meets changes ↔ _
  unfold OpenFlags.intent Mutating
  rw [Intent.or_meets, Intent.or_meets, or_assoc,
    accessIntent_meets_changes, creationIntent_meets_changes,
    truncationIntent_meets_changes]

end Opening

end CallDiagnosis

------------------------------------------------------------
-- The Search for Blame
------------------------------------------------------------

namespace CallDiagnosis

namespace Opening

section Rules

variable {σ : Type}
variable (host : Host surroundings σ)
variable (state : σ)
variable (path : String)

/- A look at the path shows a directory. -/
def ShowsDirectory :
    Prop :=
  ∃ file,
    (host.answer (.probe path) state).1 = .ok file ∧
      file.kind = .directory

/-
  What the search for blame finds, in which state it leaves
  the host, and what it asks.
-/
inductive Searched
    (e : Errno)
    (flags : Int32) :
    Option Diagnosis → σ →
      List (Exchange surroundings) → Prop where
| unasked
    (hOther :
      ¬ ((e = .eisdir ∨ e = .erofs) ∧ Mutating flags)) :
    Searched e flags none state []
| readOnly
    (hErrno : e = .erofs)
    (hMutating : Mutating flags) :
    Searched e flags (some (.readOnlyFilesystem path)) state []
| directory
    (hErrno : e = .eisdir)
    (hMutating : Mutating flags)
    (hShown : ShowsDirectory host state path) :
    Searched e flags (some (.openedDirectory path))
      (host.answer (.probe path) state).2
      [⟨.probe path, (host.answer (.probe path) state).1⟩]
| other
    (hErrno : e = .eisdir)
    (hMutating : Mutating flags)
    (hOther : ¬ ShowsDirectory host state path) :
    Searched e flags none
      (host.answer (.probe path) state).2
      [⟨.probe path, (host.answer (.probe path) state).1⟩]

end Rules

/- The search for blame that only this call can earn. -/
def search
    (c : Context)
    (e : Errno)
    (path : String)
    (intent : Intent) :
    Consult (Option Diagnosis) :=
  if intent.WantsMutation then
    Explain.openRefused c e path
  else
    pure none

variable {σ : Type}
variable (host : Host surroundings σ)
variable (level : Log.Level)
variable (state : σ)
variable (c : Context)
variable (e : Errno)
variable (path : String)
variable (flags : Int32)

/- Where a directory was in the way, one look decides. -/
theorem run_openRefused_directory
    [Decidable
      (ShowsDirectory host state (c.resolve path))] :
    (Explain.openRefused c .eisdir path).run host level state =
      ⟨if ShowsDirectory host state (c.resolve path) then
          some (.openedDirectory (c.resolve path))
        else
          none,
        (host.answer (.probe (c.resolve path)) state).2,
        [⟨.probe (c.resolve path),
          (host.answer (.probe (c.resolve path)) state).1⟩],
        []⟩ := by
  unfold Explain.openRefused
  rw [if_pos rfl, Inquiry.run_bind, Consult.run_probe]
  cases hFile :
      (host.answer (.probe (c.resolve path)) state).1 with
  | error reason =>
      have hOther :
          ¬ ShowsDirectory host state (c.resolve path) := by
        rintro ⟨file, hShown, -⟩
        rw [hFile] at hShown
        contradiction
      rw [if_neg hOther]
      rfl
  | ok file =>
      have hKind :
          file.kind = .directory ↔
            ShowsDirectory host state (c.resolve path) := by
        constructor
        · intro hDirectory
          exact ⟨file, hFile, hDirectory⟩
        · rintro ⟨shown, hShown, hDirectory⟩
          rw [hFile, Except.ok.injEq] at hShown
          rw [hShown]
          exact hDirectory
      simp only [Inquiry.run_ite_pure]
      exact congrArg (Run.mk · _ _ _) (if_congr hKind rfl rfl)

/- The search finds and asks what the rules say. -/
theorem searched_search :
    Searched host state (c.resolve path) e flags
      ((search c e path (OpenFlags.intent flags)).run
        host level state).value
      ((search c e path (OpenFlags.intent flags)).run
        host level state).state
      ((search c e path (OpenFlags.intent flags)).run
        host level state).exchanges := by
  unfold search
  by_cases hMutating : Mutating flags
  case neg =>
    rw [if_neg (mt (wantsMutation_intent_iff flags).mp
      hMutating)]
    exact .unasked (fun hAsked => hMutating hAsked.2)
  case pos =>
    rw [if_pos ((wantsMutation_intent_iff flags).mpr
      hMutating)]
    by_cases hDirectory : e = .eisdir
    · subst hDirectory
      classical
      rw [run_openRefused_directory]
      split_ifs with hShown
      · exact .directory rfl hMutating hShown
      · exact .other rfl hMutating hShown
    · unfold Explain.openRefused
      rw [if_neg hDirectory]
      by_cases hReadOnly : e = .erofs
      · rw [if_pos hReadOnly]
        exact .readOnly hReadOnly hMutating
      · rw [if_neg hReadOnly]
        refine .unasked ?_
        rintro ⟨hErrno | hErrno, -⟩
        · exact hDirectory hErrno
        · exact hReadOnly hErrno

end Opening

end CallDiagnosis

------------------------------------------------------------
-- Explanations of Openings
------------------------------------------------------------

namespace CallDiagnosis

namespace Opening

/- What is told of a directory that is not opened. -/
def directorySentence
    (path : String) :
    String :=
  s!"'{path}' is a directory, which open(2) cannot open " ++
    "for writing"

/- What is told of a file that can only be read. -/
def readOnlySentence
    (path : String) :
    String :=
  s!"'{path}' is on a read-only filesystem, so open(2) " ++
    "cannot write to or create it"

/- The two are never the same. -/
theorem directorySentence_ne_readOnlySentence
    (path other : String) :
    directorySentence path ≠ readOnlySentence other :=
  (Diagnosis.endsIn_openedDirectory path).ne
    (Diagnosis.endsIn_readOnlyFilesystem other) (by decide)

section Obligations

variable {σ : Type}
variable (host : Host surroundings σ)
variable (level : Log.Level)
variable (state : σ)
variable (c : Context)
variable (e : Errno)
variable (path : String)
variable (flags : Int32)

/-
  What has to be told of an opening, and what may be asked for
  it.  Both sentences name the place that the path leads to.
-/
structure Told
    (told : Option String)
    (exchanges : List (Exchange surroundings)) :
    Prop where
  directory :
    (∃ named, told = some (directorySentence named)) ↔
      e = .eisdir ∧ Mutating flags ∧
        ShowsDirectory host state (c.resolve path)
  directoryNamed :
    e = .eisdir → Mutating flags →
    ShowsDirectory host state (c.resolve path) →
    told = some (directorySentence (c.resolve path))
  readOnly :
    (∃ named, told = some (readOnlySentence named)) ↔
      e = .erofs ∧ Mutating flags
  readOnlyNamed :
    e = .erofs → Mutating flags →
    told = some (readOnlySentence (c.resolve path)) ∧
      exchanges = []
  looked :
    e = .eisdir → Mutating flags →
    exchanges =
        [⟨.probe (c.resolve path),
          (host.answer (.probe (c.resolve path)) state).1⟩] ∧
      (¬ ShowsDirectory host state (c.resolve path) →
        Explain.Described e .openFile told)
  unlooked :
    e ∉ Errno.pathResolution →
    ¬ ((e = .eisdir ∨ e = .erofs) ∧ Mutating flags) →
    Explain.Described e .openFile told ∧ exchanges = []
  walked :
    e ∈ Errno.pathResolution →
    Explain.Fallback host level state c e .openFile path
      (OpenFlags.intent flags) .regular told exchanges

variable {host : Host surroundings σ}
variable {level : Log.Level}
variable {state : σ}
variable {c : Context}
variable {e : Errno}
variable {path : String}
variable {flags : Int32}

/- Where nothing is looked into first, the path is walked. -/
theorem Told.of_fallback
    {told : Option String}
    {exchanges : List (Exchange surroundings)}
    (hOther :
      ¬ ((e = .eisdir ∨ e = .erofs) ∧ Mutating flags))
    (hFallback :
      Explain.Fallback host level state c e .openFile path
        (OpenFlags.intent flags) .regular told exchanges) :
    Told host level state c e path flags told exchanges := by
  have hDirectory (named : String) :
      told ≠ some (Diagnosis.openedDirectory named).text :=
    hFallback.ne_of_ofCall trivial
  have hReadOnly (named : String) :
      told ≠ some (Diagnosis.readOnlyFilesystem named).text :=
    hFallback.ne_of_ofCall trivial
  constructor
  case directory =>
    apply iff_of_false
    · rintro ⟨named, hTold⟩
      exact hDirectory named hTold
    · rintro ⟨hErrno, hMutating, -⟩
      exact hOther ⟨.inl hErrno, hMutating⟩
  case directoryNamed =>
    intro hErrno hMutating _
    exact absurd ⟨.inl hErrno, hMutating⟩ hOther
  case readOnly =>
    apply iff_of_false
    · rintro ⟨named, hTold⟩
      exact hReadOnly named hTold
    · rintro ⟨hErrno, hMutating⟩
      exact hOther ⟨.inr hErrno, hMutating⟩
  case readOnlyNamed =>
    intro hErrno hMutating
    exact absurd ⟨.inr hErrno, hMutating⟩ hOther
  case looked =>
    intro hErrno hMutating
    exact absurd ⟨.inl hErrno, hMutating⟩ hOther
  case unlooked =>
    intro hResolution _
    exact hFallback.described hResolution
  case walked =>
    intro _
    exact hFallback

/- Where nothing can be written, the filesystem is to blame. -/
theorem Told.of_readOnly
    (hMutating : Mutating flags) :
    Told host level state c .erofs path flags
      (some (readOnlySentence (c.resolve path))) [] := by
  have hOther : Errno.erofs ≠ .eisdir := by decide
  constructor
  case directory =>
    apply iff_of_false
    · rintro ⟨named, hTold⟩
      exact
        (directorySentence_ne_readOnlySentence _ _).symm
          (Option.some.inj hTold)
    · rintro ⟨hErrno, -⟩
      exact hOther hErrno
  case directoryNamed =>
    intro hErrno
    exact absurd hErrno hOther
  case readOnly =>
    exact iff_of_true ⟨_, rfl⟩ ⟨rfl, hMutating⟩
  case readOnlyNamed =>
    intro _ _
    exact ⟨rfl, rfl⟩
  case looked =>
    intro hErrno
    exact absurd hErrno hOther
  case unlooked =>
    intro _ hUnasked
    exact absurd ⟨.inr rfl, hMutating⟩ hUnasked
  case walked =>
    intro hResolution
    exact absurd hResolution (by decide)

/- Where a directory shows, it is to blame. -/
theorem Told.of_directory
    (hMutating : Mutating flags)
    (hShown : ShowsDirectory host state (c.resolve path)) :
    Told host level state c .eisdir path flags
      (some (directorySentence (c.resolve path)))
      [⟨.probe (c.resolve path),
        (host.answer (.probe (c.resolve path)) state).1⟩] := by
  have hOther : Errno.eisdir ≠ .erofs := by decide
  constructor
  case directory =>
    exact iff_of_true ⟨_, rfl⟩ ⟨rfl, hMutating, hShown⟩
  case directoryNamed =>
    intro _ _ _
    rfl
  case readOnly =>
    apply iff_of_false
    · rintro ⟨named, hTold⟩
      exact
        directorySentence_ne_readOnlySentence _ _
          (Option.some.inj hTold)
    · rintro ⟨hErrno, -⟩
      exact hOther hErrno
  case readOnlyNamed =>
    intro hErrno
    exact absurd hErrno hOther
  case looked =>
    intro _ _
    exact ⟨rfl, fun hElse => absurd hShown hElse⟩
  case unlooked =>
    intro _ hUnasked
    exact absurd ⟨.inl rfl, hMutating⟩ hUnasked
  case walked =>
    intro hResolution
    exact absurd hResolution (by decide)

/- Where none shows after all, the error is described. -/
theorem Told.of_other
    {told : Option String}
    (hMutating : Mutating flags)
    (hElse : ¬ ShowsDirectory host state (c.resolve path))
    (hDescribed : Explain.Described .eisdir .openFile told) :
    Told host level state c .eisdir path flags told
      [⟨.probe (c.resolve path),
        (host.answer (.probe (c.resolve path)) state).1⟩] := by
  have hDirectory (named : String) :
      told ≠ some (Diagnosis.openedDirectory named).text :=
    hDescribed.ne_of_ofCall trivial
  have hReadOnly (named : String) :
      told ≠ some (Diagnosis.readOnlyFilesystem named).text :=
    hDescribed.ne_of_ofCall trivial
  have hOther : Errno.eisdir ≠ .erofs := by decide
  constructor
  case directory =>
    apply iff_of_false
    · rintro ⟨named, hTold⟩
      exact hDirectory named hTold
    · rintro ⟨-, -, hShown⟩
      exact hElse hShown
  case directoryNamed =>
    intro _ _ hShown
    exact absurd hShown hElse
  case readOnly =>
    apply iff_of_false
    · rintro ⟨named, hTold⟩
      exact hReadOnly named hTold
    · rintro ⟨hErrno, -⟩
      exact hOther hErrno
  case readOnlyNamed =>
    intro hErrno
    exact absurd hErrno hOther
  case looked =>
    intro _ _
    exact ⟨rfl, fun _ => hDescribed⟩
  case unlooked =>
    intro _ hUnasked
    exact absurd ⟨.inl rfl, hMutating⟩ hUnasked
  case walked =>
    intro hResolution
    exact absurd hResolution (by decide)

end Obligations

end Opening

namespace Explain

variable {σ : Type}
variable (host : Host surroundings σ)
variable (level : Log.Level)
variable (state : σ)
variable (c : Context)
variable (e : Errno)
variable (path : String)
variable (flags : Int32)
variable (mode : UInt32)

theorem openFinding_eq
    (intent : Intent) :
    openFinding c e path intent =
      orWalk (Opening.search c e path intent) c e .openFile
        path intent .regular := by
  unfold openFinding Opening.search
  by_cases hMutation : intent.WantsMutation
  · rw [if_pos hMutation, if_pos hMutation]
    rfl
  · rw [if_neg hMutation, if_neg hMutation]
    rfl

/-
  Against any host, with any flags and any mode, an opening of
  a path that is not empty has its own sentence about a
  directory exactly if one was in the way, the flags could
  have changed something and a look shows a directory there.
  It has the one about the filesystem exactly if that was
  read-only and the flags could have changed something.  The
  arguments show the path as the caller wrote it.
-/
theorem open_tells_directory_or_readOnly
    (hPath : path ≠ "") :
    ∃ told,
      ((openFile c e (.openFile path flags mode)).run
          host level state).value =
        .ok
          ⟨.openFile,
            s!"flags = {OpenFlags.text flags}, " ++
              s!"mode = {OpenFlags.modeText mode}, path = '{path}'",
            told⟩ ∧
      Opening.Told host level state c e path flags told
        ((openFile c e (.openFile path flags mode)).run
          host level state).exchanges := by
  have hSearched :=
    Opening.searched_search host level state c e path flags
  rcases
      run_withPath_orWalk host level state c e .openFile path
        (OpenFlags.intent flags) .regular
        (openText path flags mode)
        (Opening.search c e path (OpenFlags.intent flags))
        hPath with
    ⟨told, rest, hValue, hExchanges, hOwn, hRest⟩
  rw [← openFinding_eq] at hValue hExchanges
  refine ⟨told, hValue, ?_⟩
  change
    Opening.Told host level state c e path flags told
      ((withPath .openFile path (openText path flags mode)
          (openFinding c e path
            (OpenFlags.intent flags))).run
        host level state).exchanges
  rw [hExchanges]
  -- Only what the search has found and asked matters now.
  generalize
    (Opening.search c e path (OpenFlags.intent flags)).run
      host level state = found at hSearched hOwn hRest ⊢
  rcases found with ⟨blame, later, looks, records⟩
  cases hSearched with
  | unasked hOther =>
      exact .of_fallback hOther (hRest rfl)
  | readOnly hErrno hMutating =>
      rcases hOwn _ rfl with ⟨rfl, rfl⟩
      subst hErrno
      exact .of_readOnly hMutating
  | directory hErrno hMutating hShown =>
      rcases hOwn _ rfl with ⟨rfl, rfl⟩
      subst hErrno
      exact .of_directory hMutating hShown
  | other hErrno hMutating hElse =>
      subst hErrno
      rcases (hRest rfl).described (by decide) with
        ⟨hDescribed, rfl⟩
      exact .of_other hMutating hElse hDescribed

/- A directory where somebody wants to create a file. -/
def spoolTree : Scenario :=
  ⟨[("/", [.ok ⟨.directory, 0o755, 0, 0⟩]),
    ("/srv", [.ok ⟨.directory, 0o755, 0, 0⟩])],
    500, .standard⟩

/- The sentence names the place, the arguments the path. -/
theorem open_tells_directory_or_readOnly_of_spoolTree :
    "srv" ≠ "" ∧
    ((openFile Walk.rootContext .eisdir
        (.openFile "srv" 0o101 0o644)).run Scenario.host .off
          spoolTree).value =
      .ok
        ⟨.openFile,
          "flags = O_WRONLY|O_CREAT, mode = 644, path = 'srv'",
          some
            ("'/srv' is a directory, which open(2) cannot " ++
              "open for writing")⟩ := by
  have hPath : "srv" ≠ "" := by decide
  have hPlace : Walk.rootContext.resolve "srv" = "/srv" := by
    decide
  have hMutating : Opening.Mutating 0o101 := .inl (by decide)
  have hShown :
      Opening.ShowsDirectory Scenario.host spoolTree
        (Walk.rootContext.resolve "srv") := by
    rw [hPlace]
    exact ⟨_, rfl, rfl⟩
  rcases
      open_tells_directory_or_readOnly Scenario.host .off
        spoolTree Walk.rootContext .eisdir "srv" 0o101 0o644
        hPath with
    ⟨told, hValue, hTold⟩
  refine ⟨hPath, ?_⟩
  rw [hValue, hTold.directoryNamed rfl hMutating hShown,
    hPlace, Except.ok.injEq]
  decide

end Explain

end CallDiagnosis
