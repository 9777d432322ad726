import CallDiagnosis.Proofs.Inquiry.Confined
import CallDiagnosis.Proofs.Limit.Answer
import CallDiagnosis.Proofs.Walk.Calls

/-
  Walks after a path or a name was too long.

  Key definitions include:
    * `CallDiagnosis.Walk.FirstLong`
    * `CallDiagnosis.Walk.GoesOn`
    * `CallDiagnosis.Walk.TellsLengths`

  Key theorems include:
    * `CallDiagnosis.Walk.confined_walk`
    * `CallDiagnosis.Walk.run_inspect_before_long`
    * `CallDiagnosis.Walk.walk_tells_lengths`

  Only after such a failure limits are asked for.  A path
  that is too long as a whole is told at once.  Otherwise the
  steps are visited as they are after any failure that the
  last step has no rule for, until the visit comes to a name
  that is too long.
-/

------------------------------------------------------------
-- Looks Ask for No Limit
------------------------------------------------------------

namespace CallDiagnosis

/- A question that is about a file or about signals. -/
def Question.IsLook :
    Question → Prop
| .probe _ => True
| .signal _ => True
| _ => False

namespace Walk

theorem confined_probe
    (path : String) :
    (Consult.probe path).Confined Question.IsLook :=
  .ask _ _ trivial (fun _ => .done _)

theorem confined_leafRefused
    (step : Path.Step)
    (status : FileStatus)
    (intent : Intent)
    (expected : ExpectedKind) :
    (leafRefused step status intent expected).Confined
      Question.IsLook := by
  unfold leafRefused
  by_cases hRoot : step.parent = ""
  · rw [if_pos hRoot]
    exact .done _
  · rw [if_neg hRoot]
    apply Inquiry.Confined.bind (confined_probe step.parent)
    intro answer
    cases answer with
    | error reason =>
        exact .bind (.log _ _) (fun _ => .done _)
    | ok container => exact .done _

theorem confined_leafSuccess
    (e : Errno)
    (step : Path.Step)
    (status : FileStatus)
    (intent : Intent)
    (expected : ExpectedKind) :
    (leafSuccess e step status intent expected).Confined
      Question.IsLook := by
  unfold leafSuccess
  by_cases hRefused : e = .eacces
  · rw [if_pos hRefused]
    apply Inquiry.Confined.bind
    · exact
        confined_leafRefused step status intent expected
    · intro diagnosis
      exact .done _
  · rw [if_neg hRefused]
    exact .done _

/- An inspection lets signals be serviced, and looks at files. -/
theorem confined_inspect
    (signals : SignalCheck)
    (limit : Option UInt64)
    (e : Errno)
    (intent : Intent)
    (expected : ExpectedKind)
    (steps : List Path.Step) :
    (inspect signals limit e intent expected steps).Confined
      Question.IsLook := by
  induction steps with
  | nil => exact .done _
  | cons step rest ih =>
      unfold inspect
      apply Inquiry.Confined.bind
      · exact .ask _ _ trivial (fun _ => .done _)
      · intro _
        cases brokenLimit? limit step.component with
        | some l => exact .done _
        | none =>
            apply Inquiry.Confined.bind
              (confined_probe step.path)
            intro answer
            cases answer with
            | error reason =>
                apply Inquiry.Confined.bind (.log _ _)
                intro _
                cases rest.isEmpty with
                | true => exact .done _
                | false => exact .done _
            | ok status =>
                cases rest.isEmpty with
                | true =>
                    exact
                      confined_leafSuccess e step status
                        intent expected
                | false =>
                    simp only [Bool.false_eq_true, if_false]
                    by_cases hKind : status.Traversable
                    · rw [if_pos hKind]
                      exact ih
                    · rw [if_neg hKind]
                      exact .done _

/- Unless something was too long, so does a walk. -/
theorem confined_walk
    (c : Context)
    (e : Errno)
    (path : String)
    (intent : Intent)
    (expected : ExpectedKind)
    (hErrno : e ≠ .enametoolong) :
    (walk c e path intent expected).Confined
      Question.IsLook := by
  unfold walk wholePath descend nameLimit
  simp only [hErrno, if_false]
  split
  · exact .done _
  · apply Inquiry.Confined.bind (.done none)
    rintro (_ | diagnosis)
    · apply Inquiry.Confined.bind
      · apply Inquiry.Confined.bind (.log _ _)
        intro _
        apply Inquiry.Confined.bind (.done none)
        intro limit
        exact
          confined_inspect c.signals limit e intent expected _
      · intro found
        exact .done _
    · exact .done _

end Walk

end CallDiagnosis

------------------------------------------------------------
-- Visits with a Limit for Names
------------------------------------------------------------

namespace CallDiagnosis

namespace Walk

/- A name breaks no limit that is at least its length. -/
theorem brokenLimit?_eq_none_iff
    (limit : UInt64)
    (name : String) :
    brokenLimit? (some limit) name = none ↔
      name.utf8ByteSize ≤ limit.toNat := by
  simp [brokenLimit?]

theorem brokenLimit?_eq_some
    (limit : UInt64)
    (name : String)
    (hLong : limit.toNat < name.utf8ByteSize) :
    brokenLimit? (some limit) name = some limit := by
  simp [brokenLimit?, hLong]

variable (signals : SignalCheck)
variable (limit : Option UInt64)
variable (e : Errno)
variable (intent : Intent)
variable (expected : ExpectedKind)

/-
  The last step has no rule that tells a name that was too
  long from a call that was not permitted.
-/
theorem leafSuccess_eperm
    (step : Path.Step)
    (status : FileStatus) :
    leafSuccess .enametoolong step status intent expected =
      leafSuccess .eperm step status intent expected := by
  have hLong :
      Errno.enametoolong ≠ .eacces ∧
        Errno.enametoolong ≠ .enoent ∧
        Errno.enametoolong ≠ .enotdir := by
    decide
  have hPerm :
      Errno.eperm ≠ .eacces ∧
        Errno.eperm ≠ .enoent ∧
        Errno.eperm ≠ .enotdir := by
    decide
  simp only [leafSuccess, leafFound, hLong, hPerm, if_false,
    false_and, or_false]

/- So no visit tells them apart either. -/
theorem inspect_eperm
    (steps : List Path.Step) :
    inspect signals limit .enametoolong intent expected
        steps =
      inspect signals limit .eperm intent expected steps := by
  induction steps with
  | nil => rfl
  | cons step rest ih =>
      unfold inspect
      simp only [ih, leafSuccess_eperm]

/- A limit that no name breaks makes no difference. -/
theorem inspect_within
    (steps : List Path.Step)
    (hFits :
      ∀ step ∈ steps,
        brokenLimit? limit step.component = none) :
    inspect signals limit e intent expected steps =
      inspect signals none e intent expected steps := by
  have hNone :
      ∀ name, brokenLimit? none name = none :=
    fun _ => rfl
  induction steps with
  | nil => rfl
  | cons step rest ih =>
      rw [List.forall_mem_cons] at hFits
      unfold inspect
      simp only [ih hFits.2, hFits.1, hNone]

section Runs

variable {σ : Type}
variable (host : Host surroundings σ)
variable (level : Log.Level)
variable (state : σ)

/- Neither does one at a step that ends the visit. -/
theorem run_inspect_ended
    (step : Path.Step)
    (rest : List Path.Step)
    (hFits : brokenLimit? limit step.component = none)
    (hEnds :
      LeadsOn (host.look signals step.path state).1 →
        rest = []) :
    (inspect signals limit e intent expected
        (step :: rest)).run host level state =
      (inspect signals none e intent expected
        (step :: rest)).run host level state := by
  have hNone : brokenLimit? none step.component = none := rfl
  by_cases hRest : rest = []
  · subst hRest
    simp only [inspect, hFits, hNone, List.isEmpty_nil,
      if_true]
  · have hStuck := mt hEnds hRest
    cases hSeen : (host.look signals step.path state).1 with
    | error reason =>
        unfold Host.look at hSeen
        simp [inspect, hFits, hNone, hSeen, hRest]
    | ok status =>
        rw [hSeen, leadsOn_ok] at hStuck
        unfold Host.look at hSeen
        simp [inspect, hFits, hNone, hSeen, hRest, hStuck]

variable (path : String)

/-
  A visit that ends before it comes to a name that is too
  long is one without a limit.
-/
theorem run_inspect_before_long
    (k : Nat)
    (hBound : k < (Path.components path).length)
    (hFits :
      ∀ i ≤ k,
        brokenLimit? limit
          ((Path.components path).getD i "") = none)
    (hStops :
      Stops host signals (Path.components path) state k)
    (hLeads :
      ∀ i < k,
        LeadsOn
          (host.seen signals (Path.components path) state i)) :
    (inspect signals limit e intent expected
        (Path.steps path)).run host level state =
      (inspect signals none e intent expected
        (Path.steps path)).run host level state := by
  have hEnds :
      LeadsOn
          (host.seen signals (Path.components path) state k) →
        (Path.steps path).drop (k + 1) = [] := by
    intro hOnward
    have hLast :=
      (stops_iff host signals _ state k hBound).mp hStops
        hOnward
    simp [hLast]
  rw [run_inspect_passed host level state signals e intent
      expected limit path k hBound
      (fun i hi => hFits i (by omega)) hLeads,
    run_inspect_drop host level state signals e intent
      expected path k hBound hLeads,
    Path.drop_steps path k hBound,
    run_inspect_ended signals limit e intent expected host
      level _ (Path.stepAt (Path.components path) k) _
      (hFits k (Nat.le_refl k)) hEnds]

/-
  A visit that comes to a name that is too long lets signals
  be serviced once more and tells the name.
-/
theorem run_inspect_at_long
    (j : Nat)
    (l : UInt64)
    (hBound : j < (Path.components path).length)
    (hFits :
      ∀ i < j,
        brokenLimit? limit
          ((Path.components path).getD i "") = none)
    (hLong :
      brokenLimit? limit ((Path.components path).getD j "") =
        some l)
    (hLeads :
      ∀ i < j,
        LeadsOn
          (host.seen signals (Path.components path) state i)) :
    ((inspect signals limit e intent expected
          (Path.steps path)).run host level state).value =
        some
          (.nameTooLong ((Path.components path).getD j "")
            l) ∧
      ((inspect signals limit e intent expected
          (Path.steps path)).run host level state).questions =
        itinerary signals (Path.components path) j ++
          [.signal signals] := by
  rw [run_inspect_passed host level state signals e intent
      expected limit path j hBound hFits hLeads,
    Run.followedBy_value, Run.questions_followedBy,
    Path.drop_steps path j hBound,
    ← questions_looksExchanges host state]
  unfold inspect
  simp only [Path.stepAt, hLong]
  exact ⟨rfl, rfl⟩

end Runs

end Walk

end CallDiagnosis

------------------------------------------------------------
-- Walks that Ask for Limits
------------------------------------------------------------

namespace CallDiagnosis

namespace Walk

variable {σ : Type}
variable (host : Host surroundings σ)
variable (level : Log.Level)
variable (state : σ)
variable (c : Context)
variable (path : String)
variable (intent : Intent)
variable (expected : ExpectedKind)

/- A path over its limit is told, and nothing else is asked. -/
theorem walk_over_limit
    (limit : Int64)
    (hPath : path ≠ "")
    (hLimit :
      (c.limits.answers host state path).pathMax = .ok limit)
    (hLong : limit.toUInt64.toNat < path.utf8ByteSize) :
    ((walk c .enametoolong path intent expected).run
          host level state).value =
        .ok (some (.pathTooLong path limit.toUInt64)) ∧
      ((walk c .enametoolong path intent expected).run
          host level state).questions =
        c.limits.asked .pathMax path := by
  change (c.limits.answer host state .pathMax path).1 = _
    at hLimit
  simp [walk, wholePath, LimitCache.pathMax, hPath, hLimit,
    hLong, Except.map]

/- The limits for names, as a walk asks for them. -/
theorem run_nameLimit
    (hPath : path ≠ "") :
    ((nameLimit c .enametoolong path).run host level
          (c.limits.answer host state .pathMax path).2).value =
        (c.limits.answers host state path).nameLimit ∧
      ((nameLimit c .enametoolong path).run host level
          (c.limits.answer host state .pathMax path).2).state =
        (c.limits.answers host state path).state ∧
      ((nameLimit c .enametoolong path).run host level
          (c.limits.answer host state
            .pathMax path).2).questions =
        c.limits.asked .nameMax path ++
          c.limits.asked .noTrunc path := by
  unfold nameLimit LimitAnswers.nameLimit
  simp only [LimitCache.nameMax, LimitCache.noTruncation,
    LimitCache.answers, hPath, if_true, ne_eq,
    not_false_eq_true, Inquiry.run_bind, Inquiry.run_pure,
    LimitCache.value_lookup, LimitCache.state_lookup,
    LimitCache.questions_lookup, Run.followedBy_value,
    Run.followedBy_state, Run.questions_followedBy,
    Run.questions_of_nil, List.append_nil]
  -- What is done with the answers does not depend on how
  -- they came about.
  generalize
    c.limits.answer host _ .nameMax path = named
  generalize
    c.limits.answer host named.2 .noTrunc path = kept
  cases named.1 with
  | error fault => simp [Except.map]
  | ok longest =>
      cases kept.1 with
      | error fault => simp [Except.map]
      | ok verdict =>
          by_cases hRefused : 0 < verdict
          · simp [Except.map, hRefused]
          · simp [Except.map, hRefused]

/- A path within its limit costs one question. -/
theorem run_wholePath_within
    (hPath : path ≠ "")
    (hWithin :
      ∀ limit,
        (c.limits.answers host state path).pathMax =
          .ok limit →
        ¬ limit.toUInt64.toNat < path.utf8ByteSize) :
    ((wholePath c .enametoolong path).run
          host level state).value =
        none ∧
      ((wholePath c .enametoolong path).run
          host level state).state =
        (c.limits.answer host state .pathMax path).2 ∧
      ((wholePath c .enametoolong path).run
          host level state).questions =
        c.limits.asked .pathMax path := by
  change
    ∀ limit,
      (c.limits.answer host state .pathMax path).1 =
        .ok limit → _ at hWithin
  unfold wholePath
  cases hLimit :
      (c.limits.answer host state .pathMax path).1 with
  | error fault =>
      simp [LimitCache.pathMax, hPath, hLimit, Except.map]
  | ok limit =>
      have hFits := hWithin limit hLimit
      simp [LimitCache.pathMax, hPath, hLimit, hFits,
        Except.map]

/-
  Then the steps are visited as after a call that was not
  permitted, with a limit for names.
-/
theorem walk_within_limit
    (hPath : path ≠ "")
    (hWithin :
      ∀ limit,
        (c.limits.answers host state path).pathMax =
          .ok limit →
        ¬ limit.toUInt64.toNat < path.utf8ByteSize) :
    ((walk c .enametoolong path intent expected).run
          host level state).value =
        .ok
          ((inspect c.signals
            (c.limits.answers host state path).nameLimit
            .eperm intent expected
            (Path.steps (c.resolve path))).run host level
              (c.limits.answers host state path).state).value ∧
      ((walk c .enametoolong path intent expected).run
          host level state).questions =
        c.limits.askedAll path ++
          ((inspect c.signals
            (c.limits.answers host state path).nameLimit
            .eperm intent expected
            (Path.steps (c.resolve path))).run host level
              (c.limits.answers host state
                path).state).questions := by
  have hWhole :=
    run_wholePath_within host level state c path hPath hWithin
  have hName := run_nameLimit host level state c path hPath
  rw [← inspect_eperm]
  unfold walk descend LimitCache.askedAll
  simp only [hPath, if_false, Inquiry.run_bind,
    Inquiry.run_pure, Inquiry.run_log, Run.followedBy_value,
    Run.followedBy_state, Run.questions_followedBy,
    Run.questions_of_nil, List.nil_append, List.append_nil,
    hWhole, hName, List.append_assoc, and_self]

end Walk

end CallDiagnosis

------------------------------------------------------------
-- What Too Great a Length Leads to
------------------------------------------------------------

namespace CallDiagnosis

namespace Walk

variable {σ : Type}

/-
  Questions about limits make no difference to looks: they
  lead from a state to one that shows the same.
-/
structure LimitsApart
    (host : Host surroundings σ)
    (same : σ → σ → Prop) :
    Prop where
  refl : ∀ state, same state state
  limit :
    ∀ limit path state other, same state other →
      same state
        (host.answer (.pathLimit limit path) other).2
  looks : host.Alike Question.IsLook same

/- What is told about a path of more bytes than its limit. -/
def pathOver
    (path : String)
    (limit : Nat) :
    String :=
  s!"'{path}' exceeds the system maximum path length " ++
    s!"({path.utf8ByteSize} > max {limit})"

/- What is told about a name of more bytes than its limit. -/
def nameOver
    (name : String)
    (limit : Nat) :
    String :=
  s!"path component '{name}' exceeds the system maximum " ++
    s!"name length ({name.utf8ByteSize} > " ++
    s!"max {limit})"

/- The first component that is longer than a limit. -/
structure FirstLong
    (cs : List String)
    (limit : UInt64)
    (j : Nat)
    (name : String) :
    Prop where
  here : cs[j]? = some name
  long : limit.toNat < name.utf8ByteSize
  first :
    ∀ i < j, (cs.getD i "").utf8ByteSize ≤ limit.toNat

section Obligations

variable (host : Host surroundings σ)
variable (level : Log.Level)
variable (state : σ)
variable (c : Context)
variable (path : String)
variable (intent : Intent)
variable (expected : ExpectedKind)

/-
  Once the limits were asked for, a walk answers and asks as
  it does after a call that was not permitted, from the state
  in which the limits have left the host.  Where limits make
  no difference to looks, this is the walk from the start.
-/
structure GoesOn
    (a : LimitAnswers σ) :
    Prop where
  value :
    ((walk c .enametoolong path intent expected).run
        host level state).value =
      ((walk c .eperm path intent expected).run
        host level a.state).value
  questions :
    ((walk c .enametoolong path intent expected).run
        host level state).questions =
      c.limits.askedAll path ++
        ((walk c .eperm path intent expected).run
          host level a.state).questions
  unmoved :
    ∀ same, LimitsApart host same →
      ((walk c .enametoolong path intent expected).run
          host level state).value =
        ((walk c .eperm path intent expected).run
          host level state).value ∧
      ((walk c .enametoolong path intent expected).run
          host level state).questions =
        c.limits.askedAll path ++
          ((walk c .eperm path intent expected).run
            host level state).questions

/-
  What a walk makes of the answers about limits, if the path
  has certain components.  The text of a path may be longer
  than its limit; it may be shorter, or the limit not known.
-/
structure TellsLengths
    (a : LimitAnswers σ)
    (cs : List String) :
    Prop where
  whole :
    ∀ limit, a.pathMax = .ok limit →
      limit.toUInt64.toNat < path.utf8ByteSize →
      0 ≤ limit ∧
      (∃ diagnosis,
        ((walk c .enametoolong path intent expected).run
            host level state).value =
          .ok (some diagnosis) ∧
        diagnosis.text =
          pathOver path limit.toUInt64.toNat) ∧
      ((walk c .enametoolong path intent expected).run
          host level state).questions =
        c.limits.asked .pathMax path
  unlimited :
    (∀ limit, a.pathMax = .ok limit →
      path.utf8ByteSize < limit.toUInt64.toNat) →
    (∀ longest kept, a.nameMax = .ok longest →
      a.noTrunc = .ok kept → ¬ 0 < kept) →
    GoesOn host level state c path intent expected a
  allShort :
    (∀ limit, a.pathMax = .ok limit →
      path.utf8ByteSize < limit.toUInt64.toNat) →
    ∀ longest kept, a.nameMax = .ok longest →
      a.noTrunc = .ok kept → 0 < kept →
    (∀ name ∈ cs,
      name.utf8ByteSize ≤ longest.toUInt64.toNat) →
    GoesOn host level state c path intent expected a
  endsBefore :
    (∀ limit, a.pathMax = .ok limit →
      path.utf8ByteSize < limit.toUInt64.toNat) →
    ∀ longest kept, a.nameMax = .ok longest →
      a.noTrunc = .ok kept → 0 < kept →
    ∀ j name, FirstLong cs longest.toUInt64 j name →
    (∃ k < j, Stops host c.signals cs a.state k) →
    GoesOn host level state c path intent expected a
  comesTo :
    (∀ limit, a.pathMax = .ok limit →
      path.utf8ByteSize < limit.toUInt64.toNat) →
    ∀ longest kept, a.nameMax = .ok longest →
      a.noTrunc = .ok kept → 0 < kept →
    ∀ j name, FirstLong cs longest.toUInt64 j name →
    (¬ ∃ k < j, Stops host c.signals cs a.state k) →
    (∃ diagnosis,
      ((walk c .enametoolong path intent expected).run
          host level state).value =
        .ok (some diagnosis) ∧
      diagnosis.text =
        nameOver name longest.toUInt64.toNat) ∧
    ((walk c .enametoolong path intent expected).run
        host level state).questions =
      c.limits.askedAll path ++
        itinerary c.signals cs j ++ [.signal c.signals] ∧
    .probe (Path.reach cs (j + 1)) ∉
      ((walk c .enametoolong path intent expected).run
        host level state).questions
  otherwise :
    ∀ e, e ≠ .enametoolong →
    ∀ question ∈
      ((walk c e path intent expected).run
        host level state).questions,
    question.IsLook

end Obligations

end Walk

end CallDiagnosis

------------------------------------------------------------
-- Walks after a Length
------------------------------------------------------------

namespace CallDiagnosis

namespace Walk

variable {σ : Type}
variable (host : Host surroundings σ)
variable (level : Log.Level)
variable (state : σ)
variable (c : Context)
variable (path : String)
variable (intent : Intent)
variable (expected : ExpectedKind)

/- The first long component is one of the components. -/
theorem FirstLong.bound
    {cs : List String}
    {limit : UInt64}
    {j : Nat}
    {name : String}
    (hFirst : FirstLong cs limit j name) :
    j < cs.length :=
  (List.getElem?_eq_some_iff.mp hFirst.here).1

theorem FirstLong.getD
    {cs : List String}
    {limit : UInt64}
    {j : Nat}
    {name : String}
    (hFirst : FirstLong cs limit j name) :
    cs.getD j "" = name := by
  rw [List.getD_eq_getElem?_getD, hFirst.here]
  rfl

/- The first steps are too short to be a later one. -/
theorem probe_not_mem_itinerary
    (signals : SignalCheck)
    (j : Nat)
    (hBound : j < (Path.components path).length) :
    .probe (Path.reach (Path.components path) (j + 1)) ∉
      itinerary signals (Path.components path) j := by
  intro hMember
  unfold itinerary at hMember
  simp only [List.mem_flatMap, List.mem_range, List.mem_cons,
    List.not_mem_nil, or_false, reduceCtorEq, false_or,
    Question.probe.injEq] at hMember
  rcases hMember with ⟨i, hEarlier, hReach⟩
  have hLonger :=
    Path.utf8ByteSize_reach_lt path (i + 1) (j + 1)
      (by omega) hBound
  rw [hReach] at hLonger
  omega

/- A question about a limit is no look. -/
theorem probe_not_mem_asked
    (cache : LimitCache)
    (limit : PathLimit)
    (step : String) :
    .probe step ∉ cache.asked limit path := by
  unfold LimitCache.asked
  intro hMember
  split_ifs at hMember
  · exact absurd hMember List.not_mem_nil
  · simp at hMember

theorem probe_not_mem_askedAll
    (cache : LimitCache)
    (step : String) :
    .probe step ∉ cache.askedAll path := by
  unfold LimitCache.askedAll
  simp only [List.mem_append, probe_not_mem_asked, or_self,
    not_false_eq_true]

/-
  If the limit for names does not change the visit, the walk
  goes on as after a call that was not permitted.
-/
theorem goesOn_of_run_inspect
    (hPath : path ≠ "")
    (hWithin :
      ∀ limit,
        (c.limits.answers host state path).pathMax =
          .ok limit →
        ¬ limit.toUInt64.toNat < path.utf8ByteSize)
    (hVisit :
      (inspect c.signals
          (c.limits.answers host state path).nameLimit
          .eperm intent expected
          (Path.steps (c.resolve path))).run host level
            (c.limits.answers host state path).state =
        (inspect c.signals none .eperm intent expected
          (Path.steps (c.resolve path))).run host level
            (c.limits.answers host state path).state) :
    GoesOn host level state c path intent expected
      (c.limits.answers host state path) := by
  rcases
      walk_within_limit host level state c path intent
        expected hPath hWithin with
    ⟨hValue, hQuestions⟩
  have hPermitted : Errno.eperm ≠ .enametoolong := by decide
  have hAfter :
      ((walk c .enametoolong path intent expected).run
          host level state).value =
        ((walk c .eperm path intent expected).run host level
          (c.limits.answers host state path).state).value ∧
      ((walk c .enametoolong path intent expected).run
          host level state).questions =
        c.limits.askedAll path ++
          ((walk c .eperm path intent expected).run host level
            (c.limits.answers host state
              path).state).questions := by
    rw [value_walk host level _ .eperm intent expected c path
        hPath hPermitted,
      questions_walk host level _ .eperm intent expected c
        path hPath hPermitted,
      ← hVisit]
    exact ⟨hValue, hQuestions⟩
  refine ⟨hAfter.1, hAfter.2, ?_⟩
  intro same hApart
  -- The answers about limits do not show in later looks.
  have hSame :
      same state (c.limits.answers host state path).state := by
    unfold LimitCache.answers
    apply c.limits.same_answer host same hApart.limit
    apply c.limits.same_answer host same hApart.limit
    apply c.limits.same_answer host same hApart.limit
    exact hApart.refl state
  rcases
      (confined_walk c .eperm path intent expected
        hPermitted).run_congr hApart.looks level _ _ hSame with
    ⟨hAlike, hExchanges⟩
  unfold Run.questions at hAfter ⊢
  rw [hAlike, hExchanges]
  exact hAfter

section Within

variable (hPath : path ≠ "")
variable
  (hWithin :
    ∀ limit,
      (c.limits.answers host state path).pathMax =
        .ok limit →
      ¬ limit.toUInt64.toNat < path.utf8ByteSize)

include hPath hWithin

/- It does so where all names are short enough. -/
theorem goesOn_of_all_short
    (l : UInt64)
    (hName :
      (c.limits.answers host state path).nameLimit = some l)
    (hShort :
      ∀ name ∈ Path.components (c.resolve path),
        name.utf8ByteSize ≤ l.toNat) :
    GoesOn host level state c path intent expected
      (c.limits.answers host state path) := by
  apply goesOn_of_run_inspect host level state c path intent
    expected hPath hWithin
  rw [hName, inspect_within]
  intro step hStep
  rw [brokenLimit?_eq_none_iff]
  exact hShort _ (Path.component_mem_of_mem_steps hStep)

/- It does so, too, where it stops above the long name. -/
theorem goesOn_of_stops_above
    (l : UInt64)
    (j : Nat)
    (name : String)
    (hName :
      (c.limits.answers host state path).nameLimit = some l)
    (hFirst :
      FirstLong (Path.components (c.resolve path)) l j name)
    (hStops :
      ∃ k < j,
        Stops host c.signals
          (Path.components (c.resolve path))
          (c.limits.answers host state path).state k) :
    GoesOn host level state c path intent expected
      (c.limits.answers host state path) := by
  rcases
      exists_first_stop host c.signals
        (Path.components (c.resolve path))
        (c.limits.answers host state path).state
        (Path.length_components_pos (c.resolve path)) with
    ⟨k, hBound, hStop, hOnward⟩
  have hAbove : k < j := by
    rcases hStops with ⟨i, hEarlier, hStopsHere⟩
    by_contra hLate
    exact hOnward i (by omega) hStopsHere
  apply goesOn_of_run_inspect host level state c path intent
    expected hPath hWithin
  rw [hName]
  apply run_inspect_before_long c.signals _ .eperm intent
    expected host level _ (c.resolve path) k hBound _ hStop
  · intro i hi
    exact
      leadsOn_of_not_stops host c.signals _ _ i (by omega)
        (hOnward i hi)
  · intro i hi
    rw [brokenLimit?_eq_none_iff]
    exact hFirst.first i (by omega)

/- Otherwise it comes to the long name and tells it. -/
theorem walk_comes_to_long
    (l : UInt64)
    (j : Nat)
    (name : String)
    (hName :
      (c.limits.answers host state path).nameLimit = some l)
    (hFirst :
      FirstLong (Path.components (c.resolve path)) l j name)
    (hOnward :
      ¬ ∃ k < j,
        Stops host c.signals
          (Path.components (c.resolve path))
          (c.limits.answers host state path).state k) :
    ((walk c .enametoolong path intent expected).run
        host level state).value =
      .ok (some (.nameTooLong name l)) ∧
    ((walk c .enametoolong path intent expected).run
        host level state).questions =
      c.limits.askedAll path ++
        itinerary c.signals
          (Path.components (c.resolve path)) j ++
        [.signal c.signals] := by
  have hBound := hFirst.bound
  have hFits :
      ∀ i < j,
        brokenLimit? (some l)
          ((Path.components (c.resolve path)).getD i "") =
            none := by
    intro i hi
    rw [brokenLimit?_eq_none_iff]
    exact hFirst.first i hi
  have hBroken :
      brokenLimit? (some l)
          ((Path.components (c.resolve path)).getD j "") =
        some l := by
    apply brokenLimit?_eq_some
    rw [hFirst.getD]
    exact hFirst.long
  have hLeads :
      ∀ i < j,
        LeadsOn
          (host.seen c.signals
            (Path.components (c.resolve path))
            (c.limits.answers host state path).state i) := by
    intro i hi
    apply leadsOn_of_not_stops host c.signals _ _ i (by omega)
    intro hStops
    exact hOnward ⟨i, hi, hStops⟩
  rcases
      run_inspect_at_long c.signals _ .eperm intent expected
        host level _ (c.resolve path) j l hBound hFits
        hBroken hLeads with
    ⟨hTold, hAsked⟩
  rcases
      walk_within_limit host level state c path intent
        expected hPath hWithin with
    ⟨hValue, hQuestions⟩
  rw [hName] at hValue hQuestions
  rw [hTold, hFirst.getD] at hValue
  rw [hAsked, ← List.append_assoc] at hQuestions
  exact ⟨hValue, hQuestions⟩

end Within

/-
  What a walk down a path that is not empty makes of lengths.
  After any failure but that of a length it asks for no limit.
  After that one, a path over its limit is told, and no limit
  below zero is taken for one that the path is over.  If the
  path is shorter than its limit, or there is none, the limits
  for names are asked for, and the walk goes on as after a
  call that was not permitted; unless it comes to a name over
  its limit, which it tells without a look at it.
-/
theorem walk_tells_lengths
    (hPath : path ≠ "")
    (hSize : path.utf8ByteSize < 2 ^ 63) :
    TellsLengths host level state c path intent expected
      (c.limits.answers host state path)
      (Path.components (c.resolve path)) := by
  -- A path shorter than its limit is not over it.
  have hWithin :
      (∀ limit,
        (c.limits.answers host state path).pathMax =
          .ok limit →
        path.utf8ByteSize < limit.toUInt64.toNat) →
      ∀ limit,
        (c.limits.answers host state path).pathMax =
          .ok limit →
        ¬ limit.toUInt64.toNat < path.utf8ByteSize :=
    fun hShorter limit hLimit =>
      Nat.lt_asymm (hShorter limit hLimit)
  constructor
  case whole =>
    intro limit hLimit hLong
    rcases
        walk_over_limit host level state c path intent
          expected limit hPath hLimit hLong with
      ⟨hValue, hQuestions⟩
    have hNonneg := nonneg_of_toNat_lt limit (by omega)
    exact ⟨hNonneg, ⟨_, hValue, rfl⟩, hQuestions⟩
  case unlimited =>
    intro hShorter hOpen
    apply goesOn_of_run_inspect host level state c path
      intent expected hPath (hWithin hShorter)
    rw [LimitAnswers.nameLimit_eq_none _ hOpen]
  case allShort =>
    intro hShorter longest kept hLongest hKept hRefused hShort
    have hName :=
      LimitAnswers.nameLimit_eq_some _ longest kept hLongest
        hKept hRefused
    exact
      goesOn_of_all_short host level state c path intent
        expected hPath (hWithin hShorter) _ hName hShort
  case endsBefore =>
    intro hShorter longest kept hLongest hKept hRefused j name
      hFirst hStops
    have hName :=
      LimitAnswers.nameLimit_eq_some _ longest kept hLongest
        hKept hRefused
    exact
      goesOn_of_stops_above host level state c path intent
        expected hPath (hWithin hShorter) _ j name hName
        hFirst hStops
  case comesTo =>
    intro hShorter longest kept hLongest hKept hRefused j name
      hFirst hOnward
    have hName :=
      LimitAnswers.nameLimit_eq_some _ longest kept hLongest
        hKept hRefused
    rcases
        walk_comes_to_long host level state c path intent
          expected hPath (hWithin hShorter) _ j name hName
          hFirst hOnward with
      ⟨hValue, hQuestions⟩
    refine ⟨⟨_, hValue, rfl⟩, hQuestions, ?_⟩
    rw [hQuestions]
    simp only [List.mem_append, List.mem_singleton,
      reduceCtorEq, or_false, not_or]
    exact
      ⟨probe_not_mem_askedAll path c.limits _,
        probe_not_mem_itinerary _ c.signals j hFirst.bound⟩
  case otherwise =>
    intro e hErrno
    exact
      (confined_walk c e path intent expected
        hErrno).questions host level state

/- A tree in which names of more than four bytes are refused. -/
def shortNameTree : Scenario :=
  ⟨[("/", [.ok ⟨.directory, 0o755, 0, 0⟩]),
    ("/srv", [.ok ⟨.directory, 0o755, 0, 0⟩])],
    500,
    ⟨some 4, some 4096, some 1, none, none, none, []⟩⟩

theorem components_upload :
    Path.components (rootContext.resolve "/srv/upload/x") =
      ["/", "srv", "upload", "x"] := by
  decide

theorem firstLong_upload :
    FirstLong ["/", "srv", "upload", "x"] 4 2 "upload" := by
  refine ⟨rfl, by decide, ?_⟩
  intro i hi
  match i with
  | 0 => decide
  | 1 => decide

/- Both steps above the long name lead on. -/
theorem not_stops_shortNameTree :
    ¬ ∃ k < 2,
      Stops Scenario.host .idle ["/", "srv", "upload", "x"]
        shortNameTree k := by
  rintro ⟨k, hBound, hStops⟩
  rw [stops_iff _ _ _ _ k (Nat.lt_trans hBound (by decide))]
    at hStops
  match k with
  | 0 => exact absurd (hStops ⟨_, rfl, .inl rfl⟩) (by decide)
  | 1 => exact absurd (hStops ⟨_, rfl, .inl rfl⟩) (by decide)

/- There the walk goes on as far as to the long name. -/
theorem walk_tells_lengths_of_shortNameTree :
    "/srv/upload/x" ≠ "" ∧
    "/srv/upload/x".utf8ByteSize < 2 ^ 63 ∧
    (∃ diagnosis,
      ((walk rootContext .enametoolong "/srv/upload/x"
          .wantRead .regular).run Scenario.host .off
            shortNameTree).value =
        .ok (some diagnosis) ∧
      diagnosis.text =
        "path component 'upload' exceeds the system " ++
          "maximum name length (6 > max 4)") ∧
    ((walk rootContext .enametoolong "/srv/upload/x"
        .wantRead .regular).run Scenario.host .off
          shortNameTree).questions =
      [.pathLimit .pathMax "/srv/upload/x",
        .pathLimit .nameMax "/srv/upload/x",
        .pathLimit .noTrunc "/srv/upload/x",
        .signal .idle, .probe "/",
        .signal .idle, .probe "/srv",
        .signal .idle] := by
  have hPath : "/srv/upload/x" ≠ "" := by decide
  have hSize : "/srv/upload/x".utf8ByteSize < 2 ^ 63 := by
    decide
  have hTells :=
    walk_tells_lengths Scenario.host .off shortNameTree
      rootContext "/srv/upload/x" .wantRead .regular hPath
      hSize
  rw [components_upload] at hTells
  have hShorter :
      ∀ limit,
        (.ok 4096 : Except Fault Int64) = .ok limit →
        "/srv/upload/x".utf8ByteSize <
          limit.toUInt64.toNat := by
    rintro limit ⟨⟩
    decide
  rcases
      hTells.comesTo hShorter 4 1 rfl rfl (by decide) 2
        "upload" firstLong_upload not_stops_shortNameTree with
    ⟨⟨diagnosis, hValue, hText⟩, hQuestions, -⟩
  refine ⟨hPath, hSize, ⟨diagnosis, hValue, ?_⟩, ?_⟩
  · exact hText.trans (by decide)
  · exact hQuestions.trans (by decide)

end Walk

end CallDiagnosis
