import CallDiagnosis.Call.Explain
import CallDiagnosis.Proofs.Text.Beginning
import CallDiagnosis.Proofs.Walk.Calls

/-
  When a refused opening is blamed on the absence of the file.

  Key definitions include:
    * `CallDiagnosis.NotOfAbsence`
    * `CallDiagnosis.Walk.Absent`
    * `CallDiagnosis.Walk.absence`

  Key theorems include:
    * `CallDiagnosis.Walk.inspect_blames_absence_iff`
    * `CallDiagnosis.Explain.open_blames_absence_iff`

  A walk that cannot look at the last step tells what the look
  at it failed with, whatever the call had failed with and
  whatever the caller had wanted.  So the absence of a file is
  told even to a caller that wanted to create the file and was
  not allowed to.
-/

------------------------------------------------------------
-- Sentences about Something Else
------------------------------------------------------------

namespace CallDiagnosis

/- A text that begins unlike one about the absence of a file. -/
def NotOfAbsence
    (text : String) :
    Prop :=
  text.toList.head?.any (· ≠ 'f') = true

/- How a text begins is how its first part begins. -/
theorem NotOfAbsence.append
    {first second : String}
    (hFirst : NotOfAbsence first) :
    NotOfAbsence (first ++ second) :=
  BeginsUnlike.append hFirst

theorem NotOfAbsence.ne
    {text : String}
    (hText : NotOfAbsence text)
    (path : String) :
    text ≠ s!"file '{path}' does not exist" :=
  BeginsUnlike.ne hText (by simp [toString])

/- A refusal of what is there is not about absence. -/
theorem notOfAbsence_refused
    (attempt : Attempt)
    (expected : ExpectedKind)
    (path : String)
    (container : Option Container) :
    NotOfAbsence
      (Diagnosis.refused attempt expected path
        container).text := by
  cases container with
  | none => exact .append (by rfl)
  | some c => exact .append (.append (.append (by rfl)))

namespace Walk

/- Only a missing step can be told in the words for one. -/
theorem FailureSentence.notOfAbsence
    {missing denied parent path text : String}
    {reason : Errno}
    (hMissing : reason = .enoent → NotOfAbsence missing)
    (hDenied : NotOfAbsence denied)
    (hSentence :
      FailureSentence missing denied parent path reason
        (some text)) :
    NotOfAbsence text := by
  cases hSentence with
  | missing => exact hMissing rfl
  | denied => exact hDenied
  | notDirectory => exact .append (.append (by rfl))
  | tooManyLinks => exact .append (by rfl)
  | tooLong => exact .append (.append (by rfl))

/- No step on the way is told as a file that is missing. -/
theorem InnerSentence.notOfAbsence
    {parent path text : String}
    {answer : Except Errno FileStatus}
    (hSentence : InnerSentence parent path answer (some text)) :
    NotOfAbsence text := by
  cases hSentence with
  | failed reason _ hFailure =>
      refine hFailure.notOfAbsence (fun _ => ?_) ?_
      · exact .append (.append (by rfl))
      · exact .append (.append (by rfl))
  | obstructed status hKind => exact .append (.append (by rfl))

/- A last step is told as missing only if it is missing. -/
theorem LeafSentence.notOfAbsence
    {intent : Intent}
    {expected : ExpectedKind}
    {parent path text : String}
    {reason : Errno}
    (hThere : reason ≠ .enoent)
    (hSentence :
      LeafSentence intent expected parent path reason
        (some text)) :
    NotOfAbsence text := by
  cases hSentence with
  | search hIntent hFailure =>
      exact
        hFailure.notOfAbsence
          (fun hMissing => absurd hMissing hThere)
          (.append (.append (by rfl)))
  | change hIntent hFailure =>
      exact
        hFailure.notOfAbsence
          (fun hMissing => absurd hMissing hThere)
          (.append (.append (.append (by rfl))))

/- A last step that is missing is told as missing. -/
theorem LeafSentence.eq_missing
    {intent : Intent}
    {expected : ExpectedKind}
    {parent path : String}
    {sentence : Option String}
    (hSentence :
      LeafSentence intent expected parent path .enoent
        sentence) :
    sentence =
      some s!"{expected.noun} '{path}' does not exist" := by
  cases hSentence with
  | search hIntent hFailure =>
      exact hFailure.unique .missing
  | change hIntent hFailure =>
      exact hFailure.unique .missing

end Walk

end CallDiagnosis

------------------------------------------------------------
-- Walks that Tell of Absence
------------------------------------------------------------

namespace CallDiagnosis

namespace Walk

variable {σ : Type}
variable (host : Host surroundings σ)
variable (level : Log.Level)
variable (state : σ)

/- All steps but the last lead on, and the last is missing. -/
def Absent
    (signals : SignalCheck)
    (cs : List String) :
    Prop :=
  ∃ last,
    cs.length = last + 1 ∧
    (∀ i < last, LeadsOn (host.seen signals cs state i)) ∧
    host.seen signals cs state last = .error .enoent

/- The sentence about a file that a visit does not find. -/
def absence
    (cs : List String) :
    String :=
  s!"file '{Path.reach cs cs.length}' does not exist"

/- Another sentence is not given in place of that one. -/
theorem ne_absence
    {found : Option Diagnosis}
    (cs : List String)
    (hFound :
      ∀ diagnosis ∈ found, NotOfAbsence diagnosis.text) :
    found.map Diagnosis.text ≠ some (absence cs) := by
  cases found with
  | none => simp
  | some diagnosis =>
      rw [Option.map_some, ne_eq, Option.some.injEq]
      exact (hFound diagnosis rfl).ne _

section Visits

variable (signals : SignalCheck)
variable (path : String)
variable (intent : Intent)

/- At the last step, what is there is told to be refused. -/
theorem inspect_blames_refusal
    (step : Path.Step)
    (status : FileStatus)
    (hSeen :
      (host.look signals step.path state).1 = .ok status) :
    ∃ subject container,
      ((inspect signals none .eacces intent .regular
          [step]).run host level state).value =
        some
          (.refused (attempt intent) subject step.path
            container) := by
  rw [value_inspect_found host level state signals none .eacces
    intent .regular step status rfl hSeen]
  simp only [leafSuccess, if_true, Inquiry.run_bind,
    Inquiry.run_pure, Run.followedBy_value,
    value_leafRefused]
  exact ⟨_, _, rfl⟩

/- Before the last step, an obstacle is no missing file. -/
theorem inspect_blames_other_inner
    (k : Nat)
    (hInner : k + 1 < (Path.components path).length)
    (hLeads :
      ∀ i < k,
        LeadsOn
          (host.seen signals (Path.components path) state i))
    (hStops :
      ¬ LeadsOn
        (host.seen signals (Path.components path) state k)) :
    ((inspect signals none .eacces intent .regular
        (Path.steps path)).run host level state).value.map
          Diagnosis.text ≠
      some (absence (Path.components path)) := by
  rcases
      inspect_tells_inner host level state signals path k
        hInner hLeads hStops with
    ⟨found, hFound, hSentence⟩
  rw [hFound]
  apply ne_absence
  intro diagnosis hDiagnosis
  rw [Option.mem_def.mp hDiagnosis] at hSentence
  exact hSentence.notOfAbsence

/- At the last step, only a file that is missing is one. -/
theorem inspect_blames_absence_last
    (last : Nat)
    (hLast : (Path.components path).length = last + 1)
    (hLeads :
      ∀ i < last,
        LeadsOn
          (host.seen signals (Path.components path) state i)) :
    ((inspect signals none .eacces intent .regular
        (Path.steps path)).run host level state).value.map
          Diagnosis.text =
        some (absence (Path.components path)) ↔
      host.seen signals (Path.components path) state last =
        .error .enoent := by
  cases hSeen :
      host.seen signals (Path.components path) state last with
  | error reason =>
      rcases
          inspect_tells_leaf host level state signals path last
            hLast hLeads reason hSeen intent .regular with
        ⟨found, hFound, hSentence⟩
      rw [hFound]
      by_cases hMissing : reason = .enoent
      · subst hMissing
        rw [hSentence.eq_missing, absence, hLast]
        simp [ExpectedKind.noun]
        rfl
      · have hOther :
            found.map Diagnosis.text ≠
              some (absence (Path.components path)) := by
          apply ne_absence
          intro diagnosis hDiagnosis
          rw [Option.mem_def.mp hDiagnosis] at hSentence
          exact hSentence.notOfAbsence hMissing
        simp [hOther, hMissing]
  | ok status =>
      have hBound : last < (Path.components path).length := by
        omega
      have hBelow :
          (Path.steps path).drop (last + 1) = [] := by
        simp [hLast]
      rcases
          inspect_blames_refusal host level
            (host.afterLooks signals (Path.components path)
              state last)
            signals intent
            (Path.stepAt (Path.components path) last) status
            hSeen with
        ⟨subject, container, hRefused⟩
      have hOther :
          ((inspect signals none .eacces intent .regular
              (Path.steps path)).run
                host level state).value.map Diagnosis.text ≠
            some (absence (Path.components path)) := by
        rw [run_inspect_drop host level state signals .eacces
            intent .regular path last hBound hLeads,
          Run.followedBy_value,
          Path.drop_steps path last hBound, hBelow, hRefused]
        apply ne_absence
        rintro diagnosis ⟨⟩
        exact notOfAbsence_refused _ _ _ _
      simp [hOther]

/-
  An inspection for a refused call tells of a missing file
  exactly if the last step is missing and those above it lead
  on, whatever the caller wanted of the file.
-/
theorem inspect_blames_absence_iff :
    ((inspect signals none .eacces intent .regular
        (Path.steps path)).run host level state).value.map
          Diagnosis.text =
        some (absence (Path.components path)) ↔
      Absent host state signals (Path.components path) := by
  rcases
      exists_first_stop host signals (Path.components path)
        state (Path.length_components_pos path) with
    ⟨k, hBound, hStops, hEarlier⟩
  have hLeads :
      ∀ i < k,
        LeadsOn
          (host.seen signals (Path.components path) state i) := by
    intro i hi
    exact
      leadsOn_of_not_stops host signals _ state i (by omega)
        (hEarlier i hi)
  by_cases hLast : (Path.components path).length = k + 1
  · rw [inspect_blames_absence_last host level state signals
      path intent k hLast hLeads]
    constructor
    · intro hMissing
      exact ⟨k, hLast, hLeads, hMissing⟩
    · rintro ⟨last, hLength, -, hMissing⟩
      obtain rfl : last = k := by omega
      exact hMissing
  · have hStuck :
        ¬ LeadsOn
          (host.seen signals (Path.components path)
            state k) := by
      intro hOnward
      have hEnd :=
        (stops_iff host signals _ state k hBound).mp hStops
          hOnward
      omega
    have hOther :=
      inspect_blames_other_inner host level state signals path
        intent k (by omega) hLeads hStuck
    constructor
    · intro hBlamed
      exact absurd hBlamed hOther
    · rintro ⟨last, hLength, hOnward, -⟩
      exact absurd (hOnward k (by omega)) hStuck

end Visits

end Walk

end CallDiagnosis

------------------------------------------------------------
-- Refused Openings
------------------------------------------------------------

namespace CallDiagnosis

namespace Explain

open Walk (absence Absent)

variable {σ : Type}
variable (host : Host surroundings σ)
variable (level : Log.Level)
variable (state : σ)
variable (c : Context)
variable (path : String)

/- Nothing but the walk has a say in a denied permission. -/
theorem openFinding_eacces
    (intent : Intent) :
    openFinding c .eacces path intent =
      walkOrDescribe c .eacces .openFile path intent
        .regular := by
  unfold openFinding
  split
  · rfl
  · rfl

/- Where the walk is silent, no file is told to be missing. -/
theorem walkOrDescribe_blames_absence_iff
    (intent : Intent)
    (hPath : path ≠ "") :
    ∃ found,
      ((walkOrDescribe c .eacces .openFile path intent
          .regular).run host level state).value =
        .ok found ∧
      (found.map Diagnosis.text =
          some (absence (Path.components (c.resolve path))) ↔
        Absent host state c.signals
          (Path.components (c.resolve path))) := by
  have hWalk :=
    Walk.value_walk host level state .eacces intent .regular c
      path hPath (by decide)
  have hBlamed :=
    Walk.inspect_blames_absence_iff host level state c.signals
      (c.resolve path) intent
  have hResolution :
      Errno.eacces ∈ Errno.pathResolution := by
    decide
  cases hFound :
      ((Walk.inspect c.signals none .eacces intent .regular
        (Path.steps (c.resolve path))).run
          host level state).value with
  | some diagnosis =>
      rw [hFound] at hWalk hBlamed
      refine ⟨some diagnosis, ?_, hBlamed⟩
      simp [walkOrDescribe, hResolution, hWalk]
  | none =>
      rw [hFound] at hWalk hBlamed
      refine
        ⟨some (.general SystemCall.openFile.name .unknown),
          ?_, ?_⟩
      · simp [walkOrDescribe, hResolution, hWalk]
        rfl
      · have hOther :
            (some (Diagnosis.general SystemCall.openFile.name
              .unknown)).map Diagnosis.text ≠
                some
                  (absence
                    (Path.components (c.resolve path))) := by
          apply Walk.ne_absence
          rintro diagnosis ⟨⟩
          exact .append (by rfl)
        have hSilent :
            ¬ Absent host state c.signals
              (Path.components (c.resolve path)) :=
          fun hAbsent => by cases hBlamed.mpr hAbsent
        simp only [hOther, hSilent]

/- The arguments are noted, and the walk finds the cause. -/
theorem value_openFile_eacces
    (flags : Int32)
    (mode : UInt32)
    (hPath : path ≠ "") :
    ((openFile c .eacces (.openFile path flags mode)).run
        host level state).value =
      explanation .openFile (openText path flags mode)
        ((walkOrDescribe c .eacces .openFile path
          (OpenFlags.intent flags) .regular).run
            host level state).value := by
  simp [openFile, withPath, hPath, openFinding_eacces]

/-
  A refused opening, whatever its flags and its mode, is blamed
  on the absence of the file exactly if the file is absent.
-/
theorem open_blames_absence_iff
    (flags : Int32)
    (mode : UInt32)
    (hPath : path ≠ "") :
    ∃ explained,
      ((openFile c .eacces (.openFile path flags mode)).run
          host level state).value =
        .ok explained ∧
      (explained.diagnosis =
          some (absence (Path.components (c.resolve path))) ↔
        Absent host state c.signals
          (Path.components (c.resolve path))) := by
  rcases
      walkOrDescribe_blames_absence_iff host level state c path
        (OpenFlags.intent flags) hPath with
    ⟨found, hFound, hBlamed⟩
  refine
    ⟨⟨.openFile, openText path flags mode,
      found.map Diagnosis.text⟩, ?_, hBlamed⟩
  rw [value_openFile_eacces host level state c path flags mode
    hPath, hFound]
  rfl

/- A tree with a directory in which no file was made yet. -/
def uploadTree : Scenario :=
  ⟨[("/", [.ok ⟨.directory, 0o755, 0, 0⟩]),
    ("/srv", [.ok ⟨.directory, 0o755, 0, 0⟩])],
    500, .standard⟩

theorem components_new :
    Path.components (Walk.rootContext.resolve "/srv/new") =
      ["/", "srv", "new"] := by
  decide

/- In that tree each step above a new file is a directory. -/
theorem seen_uploadTree
    (i : Nat)
    (hAbove : i < 2) :
    Scenario.host.seen .idle ["/", "srv", "new"] uploadTree i =
      .ok ⟨.directory, 0o755, 0, 0⟩ := by
  match i with
  | 0 => rfl
  | 1 => rfl

theorem absent_uploadTree :
    Absent Scenario.host uploadTree .idle
      ["/", "srv", "new"] := by
  refine ⟨2, rfl, ?_, rfl⟩
  intro i hi
  rw [seen_uploadTree i hi]
  exact ⟨_, rfl, .inl rfl⟩

/- Who may not make a file there is told that it is missing. -/
theorem open_blames_absence_of_new :
    "/srv/new" ≠ "" ∧
    ∃ explained,
      ((openFile Walk.rootContext .eacces
          (.openFile "/srv/new" 0o101 0o644)).run
            Scenario.host .off uploadTree).value =
        .ok explained ∧
      explained.diagnosis =
        some "file '/srv/new' does not exist" := by
  have hPath : "/srv/new" ≠ "" := by decide
  rcases
      open_blames_absence_iff Scenario.host .off uploadTree
        Walk.rootContext "/srv/new" 0o101 0o644 hPath with
    ⟨explained, hExplained, hBlamed⟩
  rw [components_new] at hBlamed
  exact
    ⟨hPath, explained, hExplained,
      hBlamed.mpr absent_uploadTree⟩

/-
  So it does not hold that the absence of a file is never told
  to a caller that wanted to create it, had a directory in
  each place above it, and was denied the permission.
-/
theorem not_spared_absence_of_created :
    ¬ ∀ (σ : Type) (host : Host surroundings σ)
        (level : Log.Level) (state : σ) (c : Context)
        (path : String) (flags : Int32) (mode : UInt32)
        (last : Nat) (explained : Explanation),
      path ≠ "" →
      OpenFlag.create.IsSet flags →
      (Path.components (c.resolve path)).length = last + 1 →
      (∀ i < last, ∃ status,
        host.seen c.signals
            (Path.components (c.resolve path)) state i =
          .ok status ∧
        status.kind = .directory) →
      host.seen c.signals
          (Path.components (c.resolve path)) state last =
        .error .enoent →
      ((openFile c .eacces (.openFile path flags mode)).run
          host level state).value =
        .ok explained →
      explained.diagnosis ≠
        some (absence (Path.components (c.resolve path))) := by
  intro hSpared
  have hPath : "/srv/new" ≠ "" := by decide
  rcases
      walkOrDescribe_blames_absence_iff Scenario.host .off
        uploadTree Walk.rootContext "/srv/new"
        (OpenFlags.intent 0o101) hPath with
    ⟨found, hFound, hBlamed⟩
  have hValue :=
    value_openFile_eacces Scenario.host .off uploadTree
      Walk.rootContext "/srv/new" 0o101 0o644 hPath
  rw [hFound] at hValue
  refine
    hSpared _ Scenario.host .off uploadTree Walk.rootContext
      "/srv/new" 0o101 0o644 2 _ hPath (by decide)
      (by rw [components_new]; rfl) ?_
      (by rw [components_new]; rfl) hValue
      (hBlamed.mpr (by
        rw [components_new]
        exact absent_uploadTree))
  intro i hi
  rw [components_new]
  exact ⟨_, seen_uploadTree i hi, rfl⟩

end Explain

end CallDiagnosis
