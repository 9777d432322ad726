import CallDiagnosis.Proofs.Text.Beginning
import CallDiagnosis.Proofs.Walk.Lengths
import CallDiagnosis.Proofs.Walk.Verdict

/-
  When a path is told to be too long as a whole.

  Key definitions include:
    * `CallDiagnosis.Diagnosis.NamesPathFirst`
    * `CallDiagnosis.Walk.OfStep`
    * `CallDiagnosis.Walk.Unseen`

  Key theorems include:
    * `CallDiagnosis.Diagnosis.beginsUnlike_text`
    * `CallDiagnosis.Walk.ofStep_inspect`
    * `CallDiagnosis.Walk.whole_path_told_iff_over`

  The sentence about a whole path begins with the path, and no
  sentence about one of its steps does.  So the length of a
  path can be told exactly if the path is over its limit.  A
  path of just as many bytes as the limit is not: its steps
  are visited, although a limit leaves room for the byte that
  ends the path.
-/

------------------------------------------------------------
-- Sentences that Begin with a Path
------------------------------------------------------------

namespace CallDiagnosis

namespace Diagnosis

/- A diagnosis whose sentence begins with the path itself. -/
def NamesPathFirst :
    Diagnosis → Prop
| .pathTooLong _ _ => True
| .openedDirectory _ => True
| .readOnlyFilesystem _ => True
| .unlinkedDirectory _ => True
| _ => False

theorem beginsUnlike_noun
    (expected : ExpectedKind) :
    BeginsUnlike '\x27' expected.noun := by
  cases expected <;> rfl

theorem beginsUnlike_cause
    (call : String)
    (cause : GeneralCause) :
    BeginsUnlike '\x27' (cause.text call) := by
  cases cause with
  | wouldWait => exact .append (.append (.append (by rfl)))
  | processFilesExhausted => exact .append (by rfl)
  | systemFilesExhausted => exact .append (by rfl)
  | interrupted => exact .append (.append (.append (by rfl)))
  | badAddress => exact .append (.append (.append (by rfl)))
  | hardwareFailure => exact .append (by rfl)
  | outOfMemory => exact .append (by rfl)
  | notPrivileged => exact .append (by rfl)
  | unknown => exact .append (by rfl)

/- Any other sentence begins with a word. -/
theorem beginsUnlike_text
    (diagnosis : Diagnosis)
    (hWord : ¬ diagnosis.NamesPathFirst) :
    BeginsUnlike '\x27' diagnosis.text := by
  cases diagnosis with
  | pathTooLong path limit => exact absurd trivial hWord
  | openedDirectory path => exact absurd trivial hWord
  | readOnlyFilesystem path => exact absurd trivial hWord
  | unlinkedDirectory path => exact absurd trivial hWord
  | nameTooLong name limit =>
      exact .append (.append (.append (.append (by rfl))))
  | unresolvable path => exact .append (.append (by rfl))
  | missingDirectory path => exact .append (.append (by rfl))
  | missingLeaf expected path =>
      exact
        .append (.append (.append
          (beginsUnlike_noun expected)))
  | danglingLink path =>
      exact .append (.append (.append (by rfl)))
  | notDirectory path => exact .append (.append (by rfl))
  | notSearchable directory =>
      exact .append (.append (by rfl))
  | notWritable directory =>
      exact .append (.append (.append (by rfl)))
  | tooManyLinks path => exact .append (by rfl)
  | wrongKind path found expected =>
      exact
        .append (.append (.append (.append (.append
          (by rfl)))))
  | refused attempt expected path container =>
      cases container with
      | none => exact .append (by rfl)
      | some c => exact .append (.append (.append (by rfl)))
  | stickyDirectory directory path owner =>
      exact .append (.append (.append (.append (by rfl))))
  | kernelMemory call => exact .append (by rfl)
  | general call cause => exact beginsUnlike_cause call cause

end Diagnosis

end CallDiagnosis

------------------------------------------------------------
-- Steps Are Told in Other Words
------------------------------------------------------------

namespace CallDiagnosis

namespace Walk

/- Nothing is told, or it is told in other words. -/
def OfStep
    (found : Option Diagnosis) :
    Prop :=
  ∀ diagnosis ∈ found, ¬ diagnosis.NamesPathFirst

/- A sentence about the whole path is not given for a step. -/
theorem OfStep.text_ne
    {found : Option Diagnosis}
    (hStep : OfStep found)
    (path : String)
    (limit : Nat) :
    found.map Diagnosis.text ≠ some (pathOver path limit) := by
  cases found with
  | none => simp
  | some diagnosis =>
      have hWord := diagnosis.beginsUnlike_text (hStep _ rfl)
      rw [Option.map_some, ne_eq, Option.some.injEq]
      exact hWord.ne (by simp [pathOver, toString])

/- No verdict on a step is such a sentence. -/
theorem Verdict.not_namesPathFirst
    {e : Errno}
    {intent : Intent}
    {expected : ExpectedKind}
    {diagnosis : Diagnosis}
    (hVerdict : Verdict e intent expected diagnosis) :
    ¬ diagnosis.NamesPathFirst := by
  cases hVerdict <;> exact not_false

/- So no step of a visit is told in one. -/
theorem ofStep_inspect
    {σ : Type}
    (host : Host surroundings σ)
    (level : Log.Level)
    (state : σ)
    (signals : SignalCheck)
    (limit : Option UInt64)
    (e : Errno)
    (intent : Intent)
    (expected : ExpectedKind)
    (steps : List Path.Step) :
    OfStep
      ((inspect signals limit e intent expected steps).run
        host level state).value := by
  have hVerdicts :=
    (yields_inspect e intent expected signals limit
      steps).value host level state
  intro diagnosis hTold
  exact (hVerdicts diagnosis hTold).not_namesPathFirst

end Walk

end CallDiagnosis

------------------------------------------------------------
-- Visits without a Look
------------------------------------------------------------

namespace CallDiagnosis

namespace Walk

variable {σ : Type}
variable (host : Host surroundings σ)
variable (level : Log.Level)
variable (state : σ)
variable (signals : SignalCheck)
variable (limit : Option UInt64)
variable (e : Errno)
variable (intent : Intent)
variable (expected : ExpectedKind)

/- Nothing was looked at. -/
def Unseen
    (questions : List Question) :
    Prop :=
  ∀ path, .probe path ∉ questions

/- Neither of two rows has a look if both together have none. -/
theorem unseen_append
    (first second : List Question) :
    Unseen (first ++ second) ↔
      Unseen first ∧ Unseen second := by
  simp only [Unseen, List.mem_append, not_or, forall_and]

/- Only the root's name is as short as a limit of zero. -/
theorem brokenLimit?_root
    (l : UInt64) :
    brokenLimit? limit "/" = some l ↔
      limit = some 0 ∧ l = 0 := by
  have hSize : "/".utf8ByteSize = 1 := rfl
  have hZero : ∀ m : UInt64, m.toNat < 1 ↔ m = 0 := by
    intro m
    rw [Nat.lt_one_iff, ← UInt64.toNat_inj]
    rfl
  simp only [brokenLimit?, hSize, Option.filter_eq_some_iff,
    decide_eq_true_eq, hZero]
  constructor
  · rintro ⟨hLimit, rfl⟩
    exact ⟨hLimit, rfl⟩
  · rintro ⟨hLimit, rfl⟩
    exact ⟨hLimit, rfl⟩

/- A step with a name that is not too long is looked at. -/
theorem probe_mem_questions_inspect
    (step : Path.Step)
    (rest : List Path.Step)
    (hFits : brokenLimit? limit step.component = none) :
    .probe step.path ∈
      ((inspect signals limit e intent expected
          (step :: rest)).run host level state).questions := by
  unfold inspect
  simp only [hFits, Inquiry.run_bind, Consult.run_signal,
    Consult.run_probe, Run.questions_followedBy]
  apply List.mem_append_right
  apply List.mem_append_left
  exact List.mem_singleton_self _

/-
  A visit begins with a look at the root, unless no name is
  short enough for the limit.
-/
theorem unseen_inspect_iff
    (path : String) :
    Unseen
        ((inspect signals limit e intent expected
          (Path.steps path)).run
            host level state).questions ↔
      limit = some 0 := by
  have hLength := Path.length_components_pos path
  have hRoot : (Path.components path).getD 0 "" = "/" := by
    rcases Path.components_eq_root_cons path with
      ⟨rest, hRest⟩
    rw [hRest]
    rfl
  cases hFits : brokenLimit? limit "/" with
  | some l =>
      have hZero := (brokenLimit?_root limit l).mp hFits
      have hVisit :=
        run_inspect_at_long signals limit e intent expected
          host level state path 0 l hLength (by omega)
          (by rw [hRoot, hFits]) (by omega)
      rw [hVisit.2]
      simp [Unseen, itinerary, hZero.1]
  | none =>
      have hLooks : limit ≠ some 0 := by
        intro hZero
        rw [(brokenLimit?_root limit 0).mpr ⟨hZero, rfl⟩]
          at hFits
        contradiction
      have hSteps := Path.drop_steps path 0 hLength
      rw [List.drop_zero] at hSteps
      have hLook :=
        probe_mem_questions_inspect host level state signals
          limit e intent expected
          (Path.stepAt (Path.components path) 0)
          ((Path.steps path).drop 1)
          (by rw [Path.stepAt, hRoot, hFits])
      rw [← hSteps] at hLook
      constructor
      · intro hUnseen
        exact absurd hLook (hUnseen _)
      · intro hZero
        exact absurd hZero hLooks

end Walk

end CallDiagnosis

------------------------------------------------------------
-- The Limit on Whole Paths
------------------------------------------------------------

namespace CallDiagnosis

namespace Walk

variable {σ : Type}
variable (host : Host surroundings σ)
variable (level : Log.Level)
variable (state : σ)
variable (c : Context)
variable (path : String)
variable (intent : Intent)
variable (expected : ExpectedKind)
variable (limit : Int64)

/- A path that is not over its limit is told by its steps. -/
theorem walk_not_over_limit
    (hPath : path ≠ "")
    (hLimit :
      (c.limits.answers host state path).pathMax = .ok limit)
    (hWithin :
      ¬ limit.toUInt64.toNat < path.utf8ByteSize) :
    (∃ found,
      ((walk c .enametoolong path intent expected).run
          host level state).value =
        .ok found ∧
      OfStep found) ∧
    (Unseen
        ((walk c .enametoolong path intent expected).run
            host level state).questions ↔
      (c.limits.answers host state path).nameLimit =
        some 0) := by
  have hNotOver :
      ∀ other,
        (c.limits.answers host state path).pathMax =
          .ok other →
        ¬ other.toUInt64.toNat < path.utf8ByteSize := by
    intro other hOther
    rw [hLimit, Except.ok.injEq] at hOther
    rw [← hOther]
    exact hWithin
  rcases
      walk_within_limit host level state c path intent
        expected hPath hNotOver with
    ⟨hValue, hQuestions⟩
  constructor
  · refine ⟨_, hValue, ?_⟩
    apply ofStep_inspect
  · have hAsked : Unseen (c.limits.askedAll path) :=
      probe_not_mem_askedAll path c.limits
    rw [hQuestions, unseen_append, unseen_inspect_iff]
    exact and_iff_right hAsked

/-
  A walk after something was too long, where a positive limit
  for paths is reported, tells the whole path exactly if the
  path has more bytes than the limit.  It looks at nothing
  exactly then, and where not even the root's name is short
  enough for the limit for names.
-/
theorem whole_path_told_iff_over
    (hPath : path ≠ "")
    (hLimit :
      (c.limits.answers host state path).pathMax = .ok limit)
    (hPositive : 0 < limit) :
    (∃ found,
      ((walk c .enametoolong path intent expected).run
          host level state).value =
        .ok found ∧
      (found.map Diagnosis.text =
          some (pathOver path limit.toNatClampNeg) ↔
        limit.toNatClampNeg < path.utf8ByteSize)) ∧
    (Unseen
        ((walk c .enametoolong path intent expected).run
            host level state).questions ↔
      limit.toNatClampNeg < path.utf8ByteSize ∨
        (c.limits.answers host state path).nameLimit =
          some 0) := by
  rw [← toNat_eq_of_pos limit hPositive]
  by_cases hOver : limit.toUInt64.toNat < path.utf8ByteSize
  · rcases
        walk_over_limit host level state c path intent
          expected limit hPath hLimit hOver with
      ⟨hValue, hQuestions⟩
    have hUnseen : Unseen (c.limits.asked .pathMax path) :=
      probe_not_mem_asked path c.limits .pathMax
    constructor
    · refine ⟨_, hValue, ?_⟩
      exact iff_of_true rfl hOver
    · rw [hQuestions]
      exact iff_of_true hUnseen (.inl hOver)
  · rcases
        walk_not_over_limit host level state c path intent
          expected limit hPath hLimit hOver with
      ⟨⟨found, hFound, hStep⟩, hUnseen⟩
    constructor
    · refine ⟨found, hFound, ?_⟩
      exact iff_of_false (hStep.text_ne path _) hOver
    · rw [hUnseen]
      exact (or_iff_right hOver).symm

/- A tree in which sixteen bytes are the limit for paths. -/
def shortPathTree : Scenario :=
  ⟨[("/", [.ok ⟨.directory, 0o755, 0, 0⟩])],
    500,
    ⟨some 255, some 16, some 1, none, none, none, []⟩⟩

theorem pathMax_shortPathTree :
    (rootContext.limits.answers Scenario.host shortPathTree
        "/srv/ftp/missing").pathMax =
      .ok 16 :=
  rfl

/- Sixteen bytes are not told to be too many. -/
theorem whole_path_told_iff_over_of_shortPathTree :
    "/srv/ftp/missing" ≠ "" ∧
    (rootContext.limits.answers Scenario.host shortPathTree
        "/srv/ftp/missing").pathMax =
      .ok 16 ∧
    (0 : Int64) < 16 ∧
    "/srv/ftp/missing".utf8ByteSize = 16 ∧
    (∃ found,
      ((walk rootContext .enametoolong "/srv/ftp/missing"
          .wantRead .regular).run Scenario.host .off
            shortPathTree).value =
        .ok found ∧
      found.map Diagnosis.text ≠
        some (pathOver "/srv/ftp/missing" 16)) ∧
    ¬ Unseen
        ((walk rootContext .enametoolong "/srv/ftp/missing"
          .wantRead .regular).run Scenario.host .off
            shortPathTree).questions := by
  have hPath : "/srv/ftp/missing" ≠ "" := by decide
  have hPositive : (0 : Int64) < 16 := by decide
  have hNames :
      (rootContext.limits.answers Scenario.host shortPathTree
          "/srv/ftp/missing").nameLimit ≠
        some 0 := by
    decide
  rcases
      whole_path_told_iff_over Scenario.host .off
        shortPathTree rootContext "/srv/ftp/missing" .wantRead
        .regular 16 hPath pathMax_shortPathTree hPositive with
    ⟨⟨found, hFound, hTold⟩, hUnseen⟩
  have hFits :
      ¬ (16 : Int64).toNatClampNeg <
        "/srv/ftp/missing".utf8ByteSize := by
    decide
  refine
    ⟨hPath, pathMax_shortPathTree, hPositive, rfl,
      ⟨found, hFound, mt hTold.mp hFits⟩, ?_⟩
  rw [hUnseen]
  rintro (hOver | hZero)
  · exact hFits hOver
  · exact hNames hZero

/-
  So it does not hold that a path is told to be too long, and
  nothing is looked at, as soon as the path leaves no room
  within the limit for the byte that ends it.
-/
theorem not_told_at_limit :
    ¬ ∀ (σ : Type) (host : Host surroundings σ)
        (level : Log.Level) (state : σ) (c : Context)
        (path : String) (intent : Intent)
        (expected : ExpectedKind) (limit : Int64),
      path ≠ "" →
      (c.limits.answers host state path).pathMax =
        .ok limit →
      0 < limit →
      limit.toNatClampNeg < path.utf8ByteSize + 1 →
      (∃ diagnosis,
        ((walk c .enametoolong path intent expected).run
            host level state).value =
          .ok (some diagnosis) ∧
        diagnosis.text =
          pathOver path limit.toNatClampNeg) ∧
      Unseen
        ((walk c .enametoolong path intent expected).run
            host level state).questions := by
  intro hTold
  have hPath : "/srv/ftp/missing" ≠ "" := by decide
  rcases
      walk_not_over_limit Scenario.host .off shortPathTree
        rootContext "/srv/ftp/missing" .wantRead .regular 16
        hPath pathMax_shortPathTree (by decide) with
    ⟨⟨found, hFound, hStep⟩, -⟩
  rcases
      hTold _ Scenario.host .off shortPathTree rootContext
        "/srv/ftp/missing" .wantRead .regular 16 hPath
        pathMax_shortPathTree (by decide) (by decide) with
    ⟨⟨diagnosis, hValue, hText⟩, -⟩
  rw [hFound, Except.ok.injEq] at hValue
  apply hStep.text_ne "/srv/ftp/missing"
    (16 : Int64).toNatClampNeg
  rw [hValue, Option.map_some, hText]

end Walk

end CallDiagnosis
