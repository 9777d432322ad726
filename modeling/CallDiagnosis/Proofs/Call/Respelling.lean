import CallDiagnosis.Proofs.Call.Outcome
import CallDiagnosis.Proofs.Path.Respelling
import CallDiagnosis.Scenario

/-
  Explanations of one path in two spellings.

  Key definitions include:
    * `CallDiagnosis.Call.withPath`

  Key theorems include:
    * `CallDiagnosis.Explain.walk_congr`
    * `CallDiagnosis.Explain.direct_withPath`
    * `CallDiagnosis.Explain.diagnosis_of_respelled`

  A caller's path goes into an explanation in two ways: as a
  text into the arguments that are shown, and as the place
  that it leads to into everything else.  Only the lengths of
  paths and names are measured on the text, and only after a
  failure that has to do with lengths.  So two spellings that
  lead to one place get one diagnosis, from the same looks.
-/

------------------------------------------------------------
-- Findings that Depend on the Place
------------------------------------------------------------

namespace CallDiagnosis

/- The call with another path, if its failures are explained. -/
def Call.withPath
    (call : Call)
    (path : String) :
    Call :=
  match call with
  | .chroot _ => .chroot path
  | .lstat _ => .lstat path
  | .openFile _ flags mode => .openFile path flags mode
  | .stat _ => .stat path
  | .unlink _ => .unlink path
  | _ => call

namespace Explain

variable (c : Context)
variable (e : Errno)
variable {path other : String}

section Places

variable (hPlace : c.resolve path = c.resolve other)

include hPlace

theorem openRefused_congr :
    openRefused c e path = openRefused c e other := by
  simp only [openRefused, hPlace]

theorem unlinkRefused_congr :
    unlinkRefused c path = unlinkRefused c other := by
  simp only [unlinkRefused, hPlace]

variable (hPath : path ≠ "")
variable (hOther : other ≠ "")
variable (hErrno : e ≠ .enametoolong)

include hPath hOther hErrno

/- A walk that measures nothing depends on the place alone. -/
theorem walk_congr
    (intent : Intent)
    (expected : ExpectedKind) :
    walk c e path intent expected =
      walk c e other intent expected := by
  simp only [walk, hPath, hOther, Walk.wholePath, hErrno,
    Walk.descend, Walk.nameLimit, hPlace, if_false]

theorem walkOrDescribe_congr
    (s : SystemCall)
    (intent : Intent)
    (expected : ExpectedKind) :
    walkOrDescribe c e s path intent expected =
      walkOrDescribe c e s other intent expected := by
  have hWalk :=
    walk_congr c e hPlace hPath hOther hErrno intent expected
  simp only [walkOrDescribe, hWalk]

theorem chrootFinding_congr :
    chrootFinding c e path = chrootFinding c e other := by
  have hRest :=
    walkOrDescribe_congr c e hPlace hPath hOther hErrno .chroot
      (.wantSearch ||| .mustHaveKind) .directory
  simp only [chrootFinding, hRest]

theorem openFinding_congr
    (intent : Intent) :
    openFinding c e path intent =
      openFinding c e other intent := by
  have hRest :=
    walkOrDescribe_congr c e hPlace hPath hOther hErrno
      .openFile intent .regular
  have hRefused := openRefused_congr c e hPlace
  simp only [openFinding, hRefused, hRest]

theorem unlinkFinding_congr :
    unlinkFinding c e path = unlinkFinding c e other := by
  have hRest :=
    walkOrDescribe_congr c e hPlace hPath hOther hErrno .unlink
      (.wantUnlink ||| .mustExist) .regular
  have hRefused := unlinkRefused_congr c hPlace
  simp only [unlinkFinding, hRefused, hRest]

/- One finding about the place serves for both spellings. -/
theorem direct_withPath
    (call : Call)
    (hCall : call.path? = some path) :
    ∃ (find : Consult Finding) (shown otherShown : String),
      direct c e call =
        (find >>= fun found =>
          pure (explanation call.systemCall shown found)) ∧
      direct c e (call.withPath other) =
        (find >>= fun found =>
          pure
            (explanation call.systemCall otherShown found)) := by
  -- Each explainer puts its finding behind the same check
  -- that there is a path at all.
  have hBehind :
      ∀ (s : SystemCall) (shown otherShown : String)
        (find otherFind : Consult Finding),
        find = otherFind →
        withPath s path shown find =
            (find >>= fun found =>
              pure (explanation s shown found)) ∧
          withPath s other otherShown otherFind =
            (find >>= fun found =>
              pure (explanation s otherShown found)) := by
    rintro s shown otherShown find _ rfl
    exact ⟨if_neg hPath, if_neg hOther⟩
  cases call with
  | chroot given =>
      cases hCall
      exact ⟨_, _, _, hBehind .chroot _ _ _ _
        (chrootFinding_congr c e hPlace hPath hOther hErrno)⟩
  | lstat given =>
      cases hCall
      exact ⟨_, _, _, hBehind .lstat _ _ _ _
        (walkOrDescribe_congr c e hPlace hPath hOther hErrno
          .lstat _ _)⟩
  | openFile given flags mode =>
      cases hCall
      exact ⟨_, _, _, hBehind .openFile _ _ _ _
        (openFinding_congr c e hPlace hPath hOther hErrno _)⟩
  | stat given =>
      cases hCall
      exact ⟨_, _, _, hBehind .stat _ _ _ _
        (walkOrDescribe_congr c e hPlace hPath hOther hErrno
          .stat _ _)⟩
  | unlink given =>
      cases hCall
      exact ⟨_, _, _, hBehind .unlink _ _ _ _
        (unlinkFinding_congr c e hPlace hPath hOther hErrno)⟩
  | _ => cases hCall

end Places

end Explain

end CallDiagnosis

------------------------------------------------------------
-- Explanations of Both Spellings
------------------------------------------------------------

namespace CallDiagnosis

namespace Explain

/- A call with a path, if it is explained, is not refused. -/
theorem Outcome.exists_eq_ok
    {s : SystemCall}
    {e : Errno}
    {call : Call}
    {path : String}
    {value : Except Fault Explanation}
    {exchanges : List (Exchange surroundings)}
    (hOutcome : Outcome s e call value exchanges)
    (hOwn : call.systemCall = s)
    (hCall : call.path? = some path)
    (hPath : path ≠ "") :
    ∃ x, value = .ok x := by
  cases hOutcome with
  | declined hDeclined =>
      subst hOwn
      cases call <;>
        simp [Call.path?, Call.systemCall,
          SystemCall.explained] at hCall hDeclined
  | mismatched hExplained hOther => exact absurd hOwn hOther
  | unnamed hExplained hOwn hUnnamed =>
      rw [hCall] at hUnnamed
      exact absurd (Option.some.inj hUnnamed) hPath
  | explained => exact ⟨_, rfl⟩

/-
  From any working directory and against any host, unless the
  failure has to do with lengths, a call whose path is spelled
  in another way is explained from the same exchanges by the
  same explanation, the text of the arguments apart.
-/
theorem diagnosis_of_respelled
    (c : Context)
    (w : WorkingDirectory)
    (hView : c.resolve = w.resolve)
    (e : Errno)
    (hErrno : e ≠ .enametoolong)
    (call : Call)
    (path other : String)
    (hCall : call.path? = some path)
    (hRespelled : Path.Respelled path other)
    {σ : Type}
    (host : Host surroundings σ)
    (level : Log.Level)
    (state : σ) :
    ∃ (x : Explanation) (otherShown : String),
      ((direct c e call).run host level state).value =
        .ok x ∧
      ((direct c e (call.withPath other)).run
          host level state).value =
        .ok { x with arguments := otherShown } ∧
      ((direct c e (call.withPath other)).run
          host level state).exchanges =
        ((direct c e call).run
          host level state).exchanges ∧
      ((direct c e (call.withPath other)).run
          host level state).state =
        ((direct c e call).run host level state).state := by
  have hPlace : c.resolve path = c.resolve other := by
    rw [hView]
    exact w.resolve_respelled hRespelled
  have hPath := hRespelled.ne_empty.1
  have hOutcome :=
    outcome_explainerFor host level state c e call
      call.systemCall
  rcases hOutcome.exists_eq_ok rfl hCall hPath with
    ⟨x, hValue⟩
  change ((direct c e call).run host level state).value = _
    at hValue
  rcases
      direct_withPath c e hPlace hPath hRespelled.ne_empty.2
        hErrno call hCall with
    ⟨find, shown, otherShown, hDirect, hOther⟩
  -- What follows the finding asks nothing, whatever it shows.
  have hRun (text : String) :
      (find >>= fun found =>
          pure (explanation call.systemCall text found)).run
            host level state =
        ⟨explanation call.systemCall text
            (find.run host level state).value,
          (find.run host level state).state,
          (find.run host level state).exchanges,
          (find.run host level state).records⟩ := by
    simp [Run.followedBy]
  rw [hDirect, hRun] at hValue
  rw [hOther, hDirect, hRun, hRun]
  refine ⟨x, otherShown, hValue, ?_, rfl, rfl⟩
  cases hFound : (find.run host level state).value with
  | error fault =>
      rw [hFound] at hValue
      cases hValue
  | ok found =>
      rw [hFound] at hValue
      cases hValue
      rfl

/- A directory of which the second look shows another owner. -/
def stickyTree : Scenario :=
  ⟨[("/", [.ok ⟨.directory, 0o755, 0, 0⟩]),
    ("/srv",
      [.ok ⟨.directory, 0o1777, 0, 0⟩,
        .ok ⟨.directory, 0o1777, 500, 0⟩]),
    ("/srv/a", [.ok ⟨.regular, 0o644, 7, 7⟩])],
    500, .standard⟩

/- A detour through a directory that does not even exist. -/
theorem diagnosis_of_respelled_of_stickyTree :
    Path.Respelled "srv/a" "srv/none/../a" ∧
    ((direct ⟨.empty, (WorkingDirectory.ofPath "/").resolve,
          .idle⟩ .eperm (.unlink "srv/none/../a")).run
        Scenario.host .off stickyTree).exchanges =
      ((direct ⟨.empty, (WorkingDirectory.ofPath "/").resolve,
          .idle⟩ .eperm (.unlink "srv/a")).run
        Scenario.host .off stickyTree).exchanges ∧
    ((direct ⟨.empty, (WorkingDirectory.ofPath "/").resolve,
          .idle⟩ .eperm (.unlink "srv/none/../a")).run
        Scenario.host .off stickyTree).value.map
          Explanation.diagnosis =
      ((direct ⟨.empty, (WorkingDirectory.ofPath "/").resolve,
          .idle⟩ .eperm (.unlink "srv/a")).run
        Scenario.host .off stickyTree).value.map
          Explanation.diagnosis := by
  have hPlain : Path.Plain "none".toList :=
    ⟨by decide, by decide, by decide, by decide⟩
  have hRespelled : Path.Respelled "srv/a" "srv/none/../a" :=
    .around "srv" _ "a" (.undone "none" hPlain)
  rcases
      diagnosis_of_respelled
        ⟨.empty, (WorkingDirectory.ofPath "/").resolve, .idle⟩
        (.ofPath "/") rfl .eperm (by decide)
        (.unlink "srv/a") "srv/a" "srv/none/../a" rfl
        hRespelled Scenario.host .off stickyTree with
    ⟨x, otherShown, hValue, hOther, hExchanges, -⟩
  refine ⟨hRespelled, hExchanges, ?_⟩
  rw [hValue]
  exact congrArg (·.map Explanation.diagnosis) hOther

end Explain

end CallDiagnosis
