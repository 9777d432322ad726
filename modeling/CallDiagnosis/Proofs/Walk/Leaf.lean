import CallDiagnosis.Proofs.Text.Octal
import CallDiagnosis.Proofs.Walk.Obstacle

/-
  Walks that find their last step.

  Key definitions include:
    * `CallDiagnosis.Walk.Finds`
    * `CallDiagnosis.Walk.RefusalSentence`
    * `CallDiagnosis.Walk.FoundSentence`
    * `CallDiagnosis.Walk.AllDirectories`

  Key theorems include:
    * `CallDiagnosis.Walk.value_walk_found`
    * `CallDiagnosis.Walk.walk_tells_leaf_found`
    * `CallDiagnosis.Walk.enotdir_told_by_expectation`

  If every step on the way leads on and the last step is
  there, the answer depends on the error and on what the
  caller wanted.  The rules for the last step are written
  down here as sentences, one constructor for each.  Where
  access was denied there is always a sentence, with what a
  second look above the step shows; otherwise there is one
  only for a link without a target and for a step of another
  kind than the caller was after.  When a directory was
  lacking, the kind is looked at even if nobody insisted on
  it, so that a directory can be told to be one.
-/

------------------------------------------------------------
-- Wishes
------------------------------------------------------------

namespace CallDiagnosis

namespace Intent

/- To share one of two sets of wishes is to share either. -/
theorem meets_or
    (i j k : Intent) :
    i.Meets (j ||| k) ↔ i.Meets j ∨ i.Meets k := by
  have hDistrib :
      i.bits &&& (j.bits ||| k.bits) =
        (i.bits &&& j.bits) ||| (i.bits &&& k.bits) := by
    rw [← UInt32.toBitVec_inj]
    exact BitVec.and_or_distrib_left
  change i.bits &&& (j.bits ||| k.bits) ≠ 0 ↔ _
  rw [hDistrib, ne_eq, UInt32.or_eq_zero_iff]
  exact Classical.not_and_iff_not_or_not

/- A single wish is shared exactly if it is held. -/
theorem meets_iff_contains
    (i j : Intent)
    (place : Nat)
    (hPlace : place < 32)
    (hSingle : j.bits.toBitVec = BitVec.twoPow 32 place) :
    i.Meets j ↔ i.Contains j := by
  have hNonzero : BitVec.twoPow 32 place ≠ 0#32 := by
    intro hZero
    have hBit :=
      congrArg (fun bits => bits.getLsbD place) hZero
    simp [hPlace] at hBit
  unfold Meets Contains
  rw [ne_eq, ← UInt32.toBitVec_inj, ← UInt32.toBitVec_inj,
    UInt32.toBitVec_and, hSingle, BitVec.and_twoPow]
  by_cases hHeld : i.bits.toBitVec.getLsbD place
  · rw [if_pos hHeld]
    simpa using hNonzero
  · rw [if_neg hHeld]
    simpa using hNonzero.symm

/- A caller that wanted to write or to change, one or both. -/
theorem meets_change_iff
    (i : Intent) :
    i.Meets (wantWrite ||| wantModify) ↔
      i.Contains wantWrite ∨ i.Contains wantModify := by
  rw [meets_or,
    meets_iff_contains i wantWrite 1 (by omega) rfl,
    meets_iff_contains i wantModify 4 (by omega) rfl]

end Intent

end CallDiagnosis

------------------------------------------------------------
-- Sentences
------------------------------------------------------------

namespace CallDiagnosis

namespace Walk

/- The word for what a caller wanted of a step that is there. -/
inductive AttemptWord
    (intent : Intent) :
    String → Prop where
| delete
    (hRemoved : intent.Contains .wantUnlink) :
    AttemptWord intent "delete"
| write
    (hKept : ¬ intent.Contains .wantUnlink)
    (hChanged :
      intent.Contains .wantWrite ∨
        intent.Contains .wantModify) :
    AttemptWord intent "write to"
| read
    (hKept : ¬ intent.Contains .wantUnlink)
    (hLeft :
      ¬ (intent.Contains .wantWrite ∨
        intent.Contains .wantModify))
    (hRead : intent.Contains .wantRead) :
    AttemptWord intent "read"
| search
    (hKept : ¬ intent.Contains .wantUnlink)
    (hLeft :
      ¬ (intent.Contains .wantWrite ∨
        intent.Contains .wantModify))
    (hUnread : ¬ intent.Contains .wantRead) :
    AttemptWord intent "search"

/-
  The word for a step that is there.  Only a directory is
  named for what it is.
-/
inductive SubjectWord
    (expected : ExpectedKind)
    (status : FileStatus) :
    String → Prop where
| directory
    (hKind : status.kind = .directory) :
    SubjectWord expected status "directory"
| expected
    (hKind : status.kind ≠ .directory) :
    SubjectWord expected status expected.noun

/-
  What is told about a step that is there although access to
  it was denied.  What is known of the directory above it is
  what one more look showed; there is none above the root.
-/
inductive RefusalSentence
    (intent : Intent)
    (expected : ExpectedKind)
    (status : FileStatus)
    (parent path : String) :
    Option (Except Errno FileStatus) → String → Prop where
| bare
    (above : Option (Except Errno FileStatus))
    (hUnseen : ∀ container, above ≠ some (.ok container))
    (verb noun : String)
    (hVerb : AttemptWord intent verb)
    (hNoun : SubjectWord expected status noun) :
    RefusalSentence intent expected status parent path above
      ("the user does not have permission to " ++
        s!"{verb} {noun} '{path}'")
| evident
    (container : FileStatus)
    (verb noun numeral : String)
    (hVerb : AttemptWord intent verb)
    (hNoun : SubjectWord expected status noun)
    (hNumeral :
      Octal.IsNumeral 4 container.mode.toNat numeral) :
    RefusalSentence intent expected status parent path
      (some (.ok container))
      ("the user does not have permission to " ++
        s!"{verb} {noun} '{path}'" ++ " " ++
        (s!"(containing directory '{parent}' has mode " ++
          numeral ++ ", " ++
          s!"owner UID {container.uid.toNat}, " ++
          s!"group GID {container.gid.toNat})"))

/-
  A link that the call went through is blamed if something
  was missing.
-/
def Dangling
    (e : Errno)
    (expected : ExpectedKind)
    (status : FileStatus) :
    Prop :=
  status.kind = .symlink ∧
    e = .enoent ∧
    (expected = .regular ∨ expected = .directory)

/-
  Another kind than the expected one is blamed if the kind
  mattered to the caller or to the error.
-/
def Mistaken
    (e : Errno)
    (intent : Intent)
    (expected : ExpectedKind)
    (status : FileStatus) :
    Prop :=
  status.kind ≠ .symlink ∧
    (intent.Contains .mustHaveKind ∨ e = .enotdir) ∧
    ∃ kind,
      expected.required? = some kind ∧ status.kind ≠ kind

/-
  What is told about a step that is there and to which access
  was not denied.
-/
inductive FoundSentence
    (e : Errno)
    (intent : Intent)
    (expected : ExpectedKind)
    (status : FileStatus)
    (path : String) :
    Option String → Prop where
| dangling
    (hLink : Dangling e expected status) :
    FoundSentence e intent expected status path
      (some
        (s!"symbolic link '{path}' points to a target " ++
          "that does not exist"))
| notDirectory
    (hMistaken : Mistaken e intent expected status)
    (hExpected : expected = .directory) :
    FoundSentence e intent expected status path
      (some s!"path '{path}' does not refer to a directory")
| wrongKind
    (hMistaken : Mistaken e intent expected status)
    (hExpected : expected ≠ .directory) :
    FoundSentence e intent expected status path
      (some
        (s!"path '{path}' is a {status.kind.noun}, " ++
          s!"not a {expected.noun}"))
| silent
    (hLink : ¬ Dangling e expected status)
    (hKind : ¬ Mistaken e intent expected status) :
    FoundSentence e intent expected status path none

end Walk

end CallDiagnosis

------------------------------------------------------------
-- The Rules Leave No Choice
------------------------------------------------------------

namespace CallDiagnosis

namespace Walk

theorem AttemptWord.unique
    {intent : Intent}
    {first second : String}
    (hFirst : AttemptWord intent first)
    (hSecond : AttemptWord intent second) :
    first = second := by
  cases hFirst <;> cases hSecond <;>
    first | rfl | contradiction

theorem SubjectWord.unique
    {expected : ExpectedKind}
    {status : FileStatus}
    {first second : String}
    (hFirst : SubjectWord expected status first)
    (hSecond : SubjectWord expected status second) :
    first = second := by
  cases hFirst <;> cases hSecond <;>
    first | rfl | contradiction

theorem RefusalSentence.unique
    {intent : Intent}
    {expected : ExpectedKind}
    {status : FileStatus}
    {parent path first second : String}
    {above : Option (Except Errno FileStatus)}
    (hFirst :
      RefusalSentence intent expected status parent path above
        first)
    (hSecond :
      RefusalSentence intent expected status parent path above
        second) :
    first = second := by
  cases hFirst with
  | bare _ hUnseen verb noun hVerb hNoun =>
      cases hSecond with
      | bare _ _ verb' noun' hVerb' hNoun' =>
          rw [hVerb.unique hVerb', hNoun.unique hNoun']
      | evident container =>
          exact absurd rfl (hUnseen container)
  | evident container verb noun numeral hVerb hNoun hNumeral =>
      cases hSecond with
      | bare _ hUnseen =>
          exact absurd rfl (hUnseen container)
      | evident _ verb' noun' numeral' hVerb' hNoun'
          hNumeral' =>
          rw [hVerb.unique hVerb', hNoun.unique hNoun',
            hNumeral.unique hNumeral']

/- Something is told exactly if one of two things is wrong. -/
theorem FoundSentence.isSome_iff
    {e : Errno}
    {intent : Intent}
    {expected : ExpectedKind}
    {status : FileStatus}
    {path : String}
    {sentence : Option String}
    (hSentence :
      FoundSentence e intent expected status path sentence) :
    sentence.isSome ↔
      Dangling e expected status ∨
        Mistaken e intent expected status := by
  cases hSentence with
  | dangling hLink => simp [hLink]
  | notDirectory hMistaken hExpected => simp [hMistaken]
  | wrongKind hMistaken hExpected => simp [hMistaken]
  | silent hLink hKind => simp [hLink, hKind]

end Walk

end CallDiagnosis

------------------------------------------------------------
-- Sentences of Diagnoses
------------------------------------------------------------

namespace CallDiagnosis

namespace Walk

theorem verb_attempt
    (intent : Intent) :
    AttemptWord intent (attempt intent).verb := by
  have hChange := Intent.meets_change_iff intent
  unfold attempt
  split_ifs with hRemoved hChanged hRead
  · exact .delete hRemoved
  · exact .write hRemoved (hChange.mp hChanged)
  · exact .read hRemoved (mt hChange.mpr hChanged) hRead
  · exact .search hRemoved (mt hChange.mpr hChanged) hRead

theorem noun_subject
    (expected : ExpectedKind)
    (status : FileStatus) :
    SubjectWord expected status
      (if status.kind = .directory then
        ExpectedKind.directory
      else
        expected).noun := by
  split_ifs with hKind
  · exact .directory hKind
  · exact .expected hKind

/- A refusal with evidence is told together with it. -/
theorem text_refused_some
    (attempt : Attempt)
    (subject : ExpectedKind)
    (path parent : String)
    (container : FileStatus) :
    (Diagnosis.refused attempt subject path
        (some ⟨parent, container⟩)).text =
      "the user does not have permission to " ++
        s!"{attempt.verb} {subject.noun} '{path}'" ++ " " ++
        (s!"(containing directory '{parent}' has mode " ++
          Octal.padded 4 container.mode.toNat ++ ", " ++
          s!"owner UID {container.uid.toNat}, " ++
          s!"group GID {container.gid.toNat})") := by
  change
    "the user does not have permission to " ++
        s!"{attempt.verb} {subject.noun} '{path}'" ++ " " ++
        Container.remark ⟨parent, container⟩ =
      _
  unfold Container.remark
  rfl

/- A kind is not accepted if it is not the one required. -/
theorem not_satisfies_iff
    (kind : FileKind)
    (expected : ExpectedKind) :
    ¬ kind.Satisfies expected ↔
      ∃ required,
        expected.required? = some required ∧
          kind ≠ required := by
  simp [FileKind.Satisfies]

section Leaves

variable {σ : Type}
variable (host : Host surroundings σ)
variable (level : Log.Level)
variable (state : σ)
variable (e : Errno)
variable (step : Path.Step)
variable (status : FileStatus)
variable (intent : Intent)
variable (expected : ExpectedKind)

/-
  The blame for a denied step that is there reads as the
  rules say, with a second look above it unless it is the
  root.
-/
theorem text_leafRefused :
    RefusalSentence intent expected status step.parent
      step.path
      (if step.parent = "" then
        none
      else
        some (host.answer (.probe step.parent) state).1)
      ((leafRefused step status intent expected).run host
        level state).value.text := by
  have hVerb := verb_attempt intent
  have hNoun := noun_subject expected status
  rw [value_leafRefused]
  by_cases hRoot : step.parent = ""
  · rw [if_pos hRoot, if_pos hRoot]
    exact .bare none (by simp) _ _ hVerb hNoun
  · rw [if_neg hRoot, if_neg hRoot]
    cases (host.answer (.probe step.parent) state).1 with
    | error reason =>
        exact .bare _ (by simp) _ _ hVerb hNoun
    | ok container =>
        have hNumeral :=
          Octal.isNumeral_padded 4 container.mode.toNat
            (by omega)
        have hText :=
          text_refused_some (attempt intent)
            (if status.kind = .directory then
              .directory
            else
              expected)
            step.path step.parent container
        exact hText ▸
          .evident container _ _ _ hVerb hNoun hNumeral

/- Any other blame for a step that is there does as well. -/
theorem text_leafFound :
    FoundSentence e intent expected status step.path
      ((leafFound e step status intent expected).map
        Diagnosis.text) := by
  unfold leafFound
  by_cases hLink : status.kind = .symlink
  · have hKind : ¬ Mistaken e intent expected status :=
      fun hMistaken => hMistaken.1 hLink
    rw [if_pos hLink]
    split_ifs with hMissing
    · exact .dangling ⟨hLink, hMissing⟩
    · exact .silent (fun hDangling => hMissing hDangling.2)
        hKind
  · have hTarget : ¬ Dangling e expected status :=
      fun hDangling => hLink hDangling.1
    have hOther := not_satisfies_iff status.kind expected
    rw [if_neg hLink]
    split_ifs with hMistaken hExpected
    · exact .notDirectory
        ⟨hLink, hMistaken.1, hOther.mp hMistaken.2⟩ hExpected
    · exact .wrongKind
        ⟨hLink, hMistaken.1, hOther.mp hMistaken.2⟩ hExpected
    · refine .silent hTarget ?_
      rintro ⟨-, hMatters, hKind⟩
      exact hMistaken ⟨hMatters, hOther.mpr hKind⟩

end Leaves

end Walk

end CallDiagnosis

------------------------------------------------------------
-- Last Steps that Are There
------------------------------------------------------------

namespace CallDiagnosis

namespace Walk

variable {σ : Type}
variable (host : Host surroundings σ)
variable (level : Log.Level)
variable (state : σ)

/- All steps but the last lead on, and the last one is there. -/
structure Finds
    (signals : SignalCheck)
    (cs : List String)
    (last : Nat)
    (status : FileStatus) :
    Prop where
  length : cs.length = last + 1
  leads : ∀ i < last, LeadsOn (host.seen signals cs state i)
  seen : host.seen signals cs state last = .ok status

/-
  What a host shows above the last step, if anything is above
  it, at one more look after the look at the last step.
-/
def seenAgain
    (signals : SignalCheck)
    (cs : List String)
    (last : Nat) :
    Option (Except Errno FileStatus) :=
  if last = 0 then
    none
  else
    some
      (host.answer (.probe (Path.reach cs last))
        (host.afterLooks signals cs state (last + 1))).1

variable (c : Context)
variable (e : Errno)
variable (path : String)
variable (intent : Intent)
variable (expected : ExpectedKind)
variable (last : Nat)
variable (status : FileStatus)

/- The rules for a last step that is there decide the answer. -/
theorem value_walk_found
    (hPath : path ≠ "")
    (hErrno : e ≠ .enametoolong)
    (hFinds :
      Finds host state c.signals
        (Path.components (c.resolve path)) last status) :
    ((walk c e path intent expected).run
        host level state).value =
      .ok
        ((leafSuccess e
          (Path.stepAt (Path.components (c.resolve path)) last)
          status intent expected).run host level
            (host.afterLooks c.signals
              (Path.components (c.resolve path)) state
              (last + 1))).value := by
  have hBound :
      last < (Path.components (c.resolve path)).length := by
    rw [hFinds.length]
    omega
  have hBelow :
      (Path.steps (c.resolve path)).drop (last + 1) = [] := by
    simp [hFinds.length]
  rw [value_walk host level state e intent expected c path
      hPath hErrno,
    run_inspect_drop host level state c.signals e intent
      expected (c.resolve path) last hBound hFinds.leads,
    Run.followedBy_value,
    Path.drop_steps (c.resolve path) last hBound, hBelow,
    value_inspect_found host level _ c.signals none e intent
      expected (Path.stepAt _ last) status rfl hFinds.seen]
  rfl

/- Where access was denied, the rules for that decide it. -/
theorem refusalSentence_walk
    (hPath : path ≠ "")
    (hFinds :
      Finds host state c.signals
        (Path.components (c.resolve path)) last status) :
    ∃ diagnosis,
      ((walk c .eacces path intent expected).run
          host level state).value =
        .ok (some diagnosis) ∧
      RefusalSentence intent expected status
        (Path.reach (Path.components (c.resolve path)) last)
        (Path.reach (Path.components (c.resolve path))
          (last + 1))
        (seenAgain host state c.signals
          (Path.components (c.resolve path)) last)
        diagnosis.text := by
  have hSentence :=
    text_leafRefused host level
      (host.afterLooks c.signals
        (Path.components (c.resolve path)) state (last + 1))
      (Path.stepAt (Path.components (c.resolve path)) last)
      status intent expected
  simp only [Path.stepAt, Path.reach_eq_empty_iff]
    at hSentence
  refine ⟨_, ?_, hSentence⟩
  rw [value_walk_found host level state c .eacces path intent
    expected last status hPath (by decide) hFinds]
  simp [leafSuccess, Path.stepAt]

/- Where it was not, the rules for a step found do. -/
theorem foundSentence_walk
    (hPath : path ≠ "")
    (hAllowed : e ≠ .eacces)
    (hErrno : e ≠ .enametoolong)
    (hFinds :
      Finds host state c.signals
        (Path.components (c.resolve path)) last status) :
    ∃ found,
      ((walk c e path intent expected).run
          host level state).value =
        .ok found ∧
      FoundSentence e intent expected status
        (Path.reach (Path.components (c.resolve path))
          (last + 1))
        (found.map Diagnosis.text) := by
  refine
    ⟨_, ?_,
      text_leafFound e
        (Path.stepAt (Path.components (c.resolve path)) last)
        status intent expected⟩
  rw [value_walk_found host level state c e path intent
    expected last status hPath hErrno hFinds]
  simp [leafSuccess, hAllowed]

/-
  A walk down a path that is not empty, all of whose steps
  lead on to a last one that is there.  If access was denied,
  the last step is told to be refused, and what is told of
  the directory above it is what one more look shows.  If
  something else was wrong, and neither a directory was
  lacking nor a name too long, there is an answer exactly for
  a link that leads nowhere and for a step of another kind
  than the caller insisted on.
-/
theorem walk_tells_leaf_found
    (hPath : path ≠ "")
    (hFinds :
      Finds host state c.signals
        (Path.components (c.resolve path)) last status) :
    (∃ diagnosis,
      ((walk c .eacces path intent expected).run
          host level state).value =
        .ok (some diagnosis) ∧
      RefusalSentence intent expected status
        (Path.reach (Path.components (c.resolve path)) last)
        (Path.reach (Path.components (c.resolve path))
          (last + 1))
        (seenAgain host state c.signals
          (Path.components (c.resolve path)) last)
        diagnosis.text) ∧
    ∀ other, other ≠ .eacces → other ≠ .enotdir →
      other ≠ .enametoolong →
      ∃ found,
        ((walk c other path intent expected).run
            host level state).value =
          .ok found ∧
        FoundSentence other intent expected status
          (Path.reach (Path.components (c.resolve path))
            (last + 1))
          (found.map Diagnosis.text) ∧
        (found.isSome ↔
          (status.kind = .symlink ∧
            other = .enoent ∧
            (expected = .regular ∨ expected = .directory)) ∨
          (status.kind ≠ .symlink ∧
            intent.Contains .mustHaveKind ∧
            ∃ kind,
              expected.required? = some kind ∧
                status.kind ≠ kind)) := by
  constructor
  · exact
      refusalSentence_walk host level state c path intent
        expected last status hPath hFinds
  · intro other hAllowed hDirectory hErrno
    rcases
        foundSentence_walk host level state c other path
          intent expected last status hPath hAllowed hErrno
          hFinds with
      ⟨found, hFound, hSentence⟩
    refine ⟨found, hFound, hSentence, ?_⟩
    have hTold := hSentence.isSome_iff
    rw [Option.isSome_map] at hTold
    rw [hTold]
    unfold Dangling Mistaken
    simp only [hDirectory, or_false]

/-
  A tree that others change: the directory above a file shows
  as a link at the first look and with its owner at the next.
-/
def racingTree : Scenario :=
  ⟨[("/", [.ok ⟨.directory, 0o755, 0, 0⟩]),
    ("/srv",
      [.ok ⟨.symlink, 0o777, 0, 0⟩,
        .ok ⟨.directory, 0o750, 21, 50⟩]),
    ("/srv/key", [.ok ⟨.regular, 0o600, 7, 8⟩])],
    500, .standard⟩

theorem components_key :
    Path.components (rootContext.resolve "srv/key") =
      ["/", "srv", "key"] := by
  decide

theorem finds_racingTree :
    Finds Scenario.host racingTree .idle
      ["/", "srv", "key"] 2 ⟨.regular, 0o600, 7, 8⟩ := by
  refine ⟨rfl, ?_, rfl⟩
  intro i hi
  match i with
  | 0 => exact ⟨_, rfl, .inl rfl⟩
  | 1 => exact ⟨_, rfl, .inr rfl⟩

/- The owner is the one of the second look. -/
theorem refusalSentence_racingTree :
    RefusalSentence .wantRead .regular
      ⟨.regular, 0o600, 7, 8⟩ "/srv" "/srv/key"
      (some (.ok ⟨.directory, 0o750, 21, 50⟩))
      ("the user does not have permission to read file " ++
        "'/srv/key' (containing directory '/srv' has mode " ++
        "0750, owner UID 21, group GID 50)") :=
  .evident ⟨.directory, 0o750, 21, 50⟩ "read" "file" "0750"
    (.read (by decide) (by decide) (by decide))
    (.expected (by decide))
    (Octal.isNumeral_padded 4 0o750 (by decide))

/- A denied look at the file quotes the second look above it. -/
theorem walk_tells_leaf_found_of_racingTree :
    "srv/key" ≠ "" ∧
    Finds Scenario.host racingTree rootContext.signals
      (Path.components (rootContext.resolve "srv/key")) 2
      ⟨.regular, 0o600, 7, 8⟩ ∧
    (∃ diagnosis,
      ((walk rootContext .eacces "srv/key" .wantRead
          .regular).run Scenario.host .off racingTree).value =
        .ok (some diagnosis) ∧
      diagnosis.text =
        "the user does not have permission to read file " ++
          "'/srv/key' (containing directory '/srv' has " ++
          "mode 0750, owner UID 21, group GID 50)") ∧
    ((walk rootContext .eperm "srv/key" .wantRead
        .regular).run Scenario.host .off racingTree).value =
      .ok none := by
  have hPath : "srv/key" ≠ "" := by decide
  have hFinds :
      Finds Scenario.host racingTree rootContext.signals
        (Path.components (rootContext.resolve "srv/key")) 2
        ⟨.regular, 0o600, 7, 8⟩ := by
    rw [components_key]
    exact finds_racingTree
  rcases
      walk_tells_leaf_found Scenario.host .off racingTree
        rootContext "srv/key" .wantRead .regular 2 _ hPath
        hFinds with
    ⟨⟨diagnosis, hDiagnosis, hSentence⟩, hOther⟩
  rw [components_key] at hSentence
  refine ⟨hPath, hFinds, ⟨diagnosis, hDiagnosis, ?_⟩, ?_⟩
  · exact hSentence.unique refusalSentence_racingTree
  · rcases
        hOther .eperm (by decide) (by decide) (by decide) with
      ⟨found, hFound, -, hTold⟩
    have hNone : found = none := by
      rw [← Option.not_isSome_iff_eq_none, hTold]
      decide
    rw [hFound, hNone]

end Walk

end CallDiagnosis

------------------------------------------------------------
-- Directories All the Way
------------------------------------------------------------

namespace CallDiagnosis

namespace Walk

/- A directory is mistaken only for a file or for a link. -/
theorem mistaken_directory_iff
    (intent : Intent)
    (expected : ExpectedKind)
    (status : FileStatus)
    (hKind : status.kind = .directory) :
    Mistaken .enotdir intent expected status ↔
      ¬ (expected = .unspecified ∨
        expected = .directory) := by
  unfold Mistaken
  rw [hKind]
  cases expected <;> simp [ExpectedKind.required?]

/- The sentence about a directory in the place of another kind. -/
def directoryInstead
    (expected : ExpectedKind)
    (path : String) :
    String :=
  s!"path '{path}' is a directory, not a {expected.noun}"

/-
  What is told about a directory when a directory was lacking
  depends on what the caller expected and on nothing else.
-/
theorem FoundSentence.of_directory
    {intent : Intent}
    {expected : ExpectedKind}
    {status : FileStatus}
    {path : String}
    {sentence : Option String}
    (hKind : status.kind = .directory)
    (hSentence :
      FoundSentence .enotdir intent expected status path
        sentence) :
    sentence =
      if expected = .unspecified ∨ expected = .directory then
        none
      else
        some (directoryInstead expected path) := by
  have hMistaken :=
    mistaken_directory_iff intent expected status hKind
  cases hSentence with
  | dangling hLink =>
      have hOther := hLink.1
      rw [hKind] at hOther
      contradiction
  | notDirectory hWrong hExpected =>
      exact absurd (.inr hExpected) (hMistaken.mp hWrong)
  | wrongKind hWrong hExpected =>
      rw [if_neg (hMistaken.mp hWrong), hKind]
      apply congrArg some
      apply String.toList_inj.mp
      simp [directoryInstead, FileKind.noun, toString]
  | silent hLink hRight =>
      rw [if_pos (Classical.not_not.mp
        (mt hMistaken.mpr hRight))]

variable {σ : Type}
variable (host : Host surroundings σ)
variable (level : Log.Level)
variable (state : σ)

/- Every step of a visit shows as a directory. -/
def AllDirectories
    (signals : SignalCheck)
    (cs : List String) :
    Prop :=
  ∀ i < cs.length, ∃ status,
    host.seen signals cs state i = .ok status ∧
      status.kind = .directory

/- The last of them is found, since the others lead on. -/
theorem AllDirectories.finds
    {host : Host surroundings σ}
    {state : σ}
    {signals : SignalCheck}
    {cs : List String}
    (hSteps : 0 < cs.length)
    (hDirectories : AllDirectories host state signals cs) :
    ∃ status,
      Finds host state signals cs (cs.length - 1) status ∧
        status.kind = .directory := by
  rcases hDirectories (cs.length - 1) (by omega) with
    ⟨status, hSeen, hKind⟩
  refine ⟨status, ⟨by omega, ?_, hSeen⟩, hKind⟩
  intro i hi
  rcases hDirectories i (by omega) with
    ⟨above, hAbove, hDirectory⟩
  exact ⟨above, hAbove, .inl hDirectory⟩

variable (c : Context)
variable (path : String)
variable (intent : Intent)
variable (expected : ExpectedKind)

/- The expectation alone decides what is then told. -/
theorem text_walk_enotdir
    (hPath : path ≠ "")
    (hDirectories :
      AllDirectories host state c.signals
        (Path.components (c.resolve path))) :
    ∃ found,
      ((walk c .enotdir path intent expected).run
          host level state).value =
        .ok found ∧
      found.map Diagnosis.text =
        if expected = .unspecified ∨
            expected = .directory then
          none
        else
          some
            (directoryInstead expected
              (Path.reach (Path.components (c.resolve path))
                (Path.components
                  (c.resolve path)).length)) := by
  have hLength :=
    Path.length_components_pos (c.resolve path)
  rcases hDirectories.finds hLength with
    ⟨status, hFinds, hKind⟩
  rcases
      foundSentence_walk host level state c .enotdir path
        intent expected _ status hPath (by decide)
        (by decide) hFinds with
    ⟨found, hFound, hSentence⟩
  refine ⟨found, hFound, ?_⟩
  rw [hSentence.of_directory hKind, ← hFinds.length]

/-
  A walk down a path all of whose steps show as directories,
  after a call that lacked a directory, is silent exactly if
  the caller expected a directory or nothing in particular.
  To any other caller the last directory is told to be one,
  whatever the caller wanted of it.
-/
theorem enotdir_told_by_expectation
    (hPath : path ≠ "")
    (hDirectories :
      AllDirectories host state c.signals
        (Path.components (c.resolve path))) :
    ∃ found,
      ((walk c .enotdir path intent expected).run
          host level state).value =
        .ok found ∧
      (found = none ↔
        expected = .unspecified ∨ expected = .directory) ∧
      ∀ diagnosis ∈ found,
        diagnosis.text =
          directoryInstead expected
            (Path.reach (Path.components (c.resolve path))
              (Path.components (c.resolve path)).length) := by
  rcases
      text_walk_enotdir host level state c path intent
        expected hPath hDirectories with
    ⟨found, hFound, hText⟩
  refine ⟨found, hFound, ?_⟩
  by_cases hExpected :
      expected = .unspecified ∨ expected = .directory
  · rw [if_pos hExpected, Option.map_eq_none_iff] at hText
    simp [hText, hExpected]
  · rw [if_neg hExpected] at hText
    rcases Option.map_eq_some_iff.mp hText with
      ⟨diagnosis, hSome, hSentence⟩
    simp [hSome, hExpected, hSentence]

/- A tree with a directory for whoever looks for a file. -/
def plainTree : Scenario :=
  ⟨[("/", [.ok ⟨.directory, 0o755, 0, 0⟩]),
    ("/srv", [.ok ⟨.directory, 0o755, 0, 0⟩])],
    500, .standard⟩

theorem components_srv :
    Path.components (rootContext.resolve "/srv") =
      ["/", "srv"] := by
  decide

theorem allDirectories_plainTree :
    AllDirectories Scenario.host plainTree .idle
      ["/", "srv"] := by
  intro i hi
  match i with
  | 0 => exact ⟨_, rfl, rfl⟩
  | 1 => exact ⟨_, rfl, rfl⟩

/- Who looks for a file there is told of a directory. -/
theorem enotdir_told_by_expectation_of_plainTree :
    "/srv" ≠ "" ∧
    AllDirectories Scenario.host plainTree
      rootContext.signals
      (Path.components (rootContext.resolve "/srv")) ∧
    ∃ diagnosis,
      ((walk rootContext .enotdir "/srv" .wantSearch
          .regular).run Scenario.host .off plainTree).value =
        .ok (some diagnosis) ∧
      diagnosis.text =
        "path '/srv' is a directory, not a file" := by
  have hPath : "/srv" ≠ "" := by decide
  have hDirectories :
      AllDirectories Scenario.host plainTree
        rootContext.signals
        (Path.components (rootContext.resolve "/srv")) := by
    rw [components_srv]
    exact allDirectories_plainTree
  rcases
      enotdir_told_by_expectation Scenario.host .off plainTree
        rootContext "/srv" .wantSearch .regular hPath
        hDirectories with
    ⟨found, hFound, hSilent, hText⟩
  have hSome : found ≠ none := by
    rw [ne_eq, hSilent]
    decide
  rcases Option.ne_none_iff_exists'.mp hSome with
    ⟨diagnosis, hDiagnosis⟩
  refine
    ⟨hPath, hDirectories, diagnosis, ?_, ?_⟩
  · rw [hFound, hDiagnosis]
  · rw [hText diagnosis hDiagnosis, components_srv]
    decide

/-
  So it does not hold that no directory is ever blamed for
  the lack of one where no certain kind was insisted on.
-/
theorem not_silent_enotdir_at_directories :
    ¬ ∀ (σ : Type) (host : Host surroundings σ)
        (level : Log.Level) (state : σ) (c : Context)
        (path : String) (intent : Intent)
        (expected : ExpectedKind),
      path ≠ "" →
      ¬ intent.Contains .mustHaveKind →
      AllDirectories host state c.signals
        (Path.components (c.resolve path)) →
      ((walk c .enotdir path intent expected).run
          host level state).value =
        .ok none := by
  intro hSilent
  have hPath : "/srv" ≠ "" := by decide
  have hDirectories :
      AllDirectories Scenario.host plainTree
        rootContext.signals
        (Path.components (rootContext.resolve "/srv")) := by
    rw [components_srv]
    exact allDirectories_plainTree
  rcases
      text_walk_enotdir Scenario.host .off plainTree
        rootContext "/srv" .wantSearch .regular hPath
        hDirectories with
    ⟨found, hFound, hText⟩
  have hNone :=
    hSilent _ Scenario.host .off plainTree rootContext "/srv"
      .wantSearch .regular hPath (by decide) hDirectories
  rw [hFound, Except.ok.injEq] at hNone
  rw [hNone] at hText
  contradiction

end Walk

end CallDiagnosis
