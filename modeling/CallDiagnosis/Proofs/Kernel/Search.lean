import CallDiagnosis.Kernel.Tree
import CallDiagnosis.Proofs.Inquiry.Sequencing
import CallDiagnosis.Proofs.Path.Climbing

/-
  The search for a limit among the places of a climb.

  Key definitions include:
    * `CallDiagnosis.Kernel.LeadsUp`
    * `CallDiagnosis.Kernel.Searched`
    * `CallDiagnosis.Kernel.Answered`

  Key theorems include:
    * `CallDiagnosis.Kernel.searched_search`
    * `CallDiagnosis.Kernel.Searched.eq_ok_iff`
    * `CallDiagnosis.Kernel.limit_found_at_first_place`

  A kernel that is asked for a limit at a path may know of no
  such path.  Then the limit is asked for one place further
  up, and so on.  Any other answer ends the search: a value is
  what was looked for, and where there is no limit, or where
  something else went wrong, none is found further up.
-/

------------------------------------------------------------
-- Answers that Lead Further Up
------------------------------------------------------------

namespace CallDiagnosis

namespace Kernel

/-
  An error that says of a path only that nothing was found by
  it, so that a limit may be found further up.
-/
def LeadsUp
    (e : Errno) :
    Prop :=
  e = .enoent ∨ e = .enametoolong ∨ e = .enotdir ∨
    e = .eacces ∨ e = .eloop

theorem mem_climbing_iff
    (e : Errno) :
    e ∈ climbing ↔ LeadsUp e := by
  simp [climbing, LeadsUp]

/- Where nothing failed, there is nothing to look for above. -/
theorem not_leadsUp_success :
    ¬ LeadsUp .success := by
  rw [← mem_climbing_iff]
  decide

/- At a place the kernel answered with such an error. -/
def PassesOn
    (reply : String → Except Errno Int64)
    (place : String) :
    Prop :=
  ∃ e, reply place = .error e ∧ LeadsUp e

theorem passesOn_of_error
    {reply : String → Except Errno Int64}
    {place : String}
    {e : Errno}
    (hReply : reply place = .error e) :
    PassesOn reply place ↔ LeadsUp e := by
  constructor
  · rintro ⟨other, hOther, hUp⟩
    rw [hReply, Except.error.injEq] at hOther
    rwa [hOther]
  · intro hUp
    exact ⟨e, hReply, hUp⟩

theorem not_passesOn_of_ok
    {reply : String → Except Errno Int64}
    {place : String}
    {value : Int64}
    (hReply : reply place = .ok value) :
    ¬ PassesOn reply place := by
  rintro ⟨e, hError, -⟩
  rw [hReply] at hError
  contradiction

end Kernel

end CallDiagnosis

------------------------------------------------------------
-- Searches
------------------------------------------------------------

namespace CallDiagnosis

namespace Kernel

/- There is no such limit, as far as a search can tell. -/
def notFound
    (limit : PathLimit) :
    Except Fault Int64 :=
  .error (.unsupported (.ofPath limit))

/-
  What a search among some places finds, and the places that
  it asks about.
-/
inductive Searched
    (limit : PathLimit)
    (reply : String → Except Errno Int64) :
    List String → Except Fault Int64 → List String →
      Prop where
| exhausted :
    Searched limit reply [] (notFound limit) []
| found
    (place : String)
    (rest : List String)
    (value : Int64)
    (hReply : reply place = .ok value) :
    Searched limit reply (place :: rest) (.ok value) [place]
| ended
    (place : String)
    (rest : List String)
    (e : Errno)
    (hReply : reply place = .error e)
    (hEnd : ¬ LeadsUp e) :
    Searched limit reply (place :: rest) (notFound limit)
      [place]
| further
    (place : String)
    (rest : List String)
    (outcome : Except Fault Int64)
    (asked : List String)
    (hPasses : PassesOn reply place)
    (hRest : Searched limit reply rest outcome asked) :
    Searched limit reply (place :: rest) outcome
      (place :: asked)

/- A question about a place with the kernel's answer. -/
def exchange
    (limit : PathLimit)
    (reply : String → Except Errno Int64)
    (place : String) :
    Exchange system :=
  ⟨.pathconf place limit, reply place⟩

section Runs

variable {σ : Type}
variable (host : Host system σ)
variable (level : Log.Level)
variable (state : σ)
variable (limit : PathLimit)
variable (reply : String → Except Errno Int64)
variable (place : String)
variable (rest : List String)

/- A value ends a search. -/
theorem run_search_found
    (value : Int64)
    (hAnswer :
      (host.answer (.pathconf place limit) state).1 =
        .ok value) :
    ((search limit (place :: rest)).run
        host level state).value = .ok value ∧
      ((search limit (place :: rest)).run
          host level state).exchanges =
        [⟨.pathconf place limit, .ok value⟩] := by
  simp [search, Inquiry.run, Run.withExchange, hAnswer]

/- So does an error that does not lead further up. -/
theorem run_search_ended
    (e : Errno)
    (hAnswer :
      (host.answer (.pathconf place limit) state).1 =
        .error e)
    (hEnd : ¬ LeadsUp e) :
    ((search limit (place :: rest)).run
        host level state).value = notFound limit ∧
      ((search limit (place :: rest)).run
          host level state).exchanges =
        [⟨.pathconf place limit, .error e⟩] := by
  rw [← mem_climbing_iff] at hEnd
  by_cases hNothing : e = .success
  · simp [search, Inquiry.run, Run.withExchange, hAnswer,
      hNothing, notFound]
  · simp [search, Inquiry.run, Run.withExchange, hAnswer,
      hNothing, hEnd, notFound]

/- Any other error costs one question and decides nothing. -/
theorem run_search_further
    (e : Errno)
    (hAnswer :
      (host.answer (.pathconf place limit) state).1 =
        .error e)
    (hUp : LeadsUp e) :
    ((search limit (place :: rest)).run
        host level state).value =
      ((search limit rest).run host level
        (host.answer (.pathconf place limit) state).2).value ∧
      ((search limit (place :: rest)).run
          host level state).exchanges =
        ⟨.pathconf place limit, .error e⟩ ::
          ((search limit rest).run host level
            (host.answer
              (.pathconf place limit) state).2).exchanges := by
  have hFailed : e ≠ .success := by
    rintro rfl
    exact not_leadsUp_success hUp
  rw [← mem_climbing_iff] at hUp
  simp [search, Inquiry.run, Run.withExchange, hAnswer, hFailed,
    hUp]

/-
  Against a kernel that answers by the place alone, a search
  finds and asks what the rules say.
-/
theorem searched_search
    (hReply :
      ∀ place later,
        (host.answer (.pathconf place limit) later).1 =
          reply place)
    (places : List String) :
    ∃ asked,
      Searched limit reply places
        ((search limit places).run host level state).value
        asked ∧
      ((search limit places).run host level state).exchanges =
        asked.map (exchange limit reply) := by
  induction places generalizing state with
  | nil => exact ⟨[], .exhausted, rfl⟩
  | cons place rest ih =>
      have hAnswer := hReply place state
      cases hHere : reply place with
      | ok value =>
          rw [hHere] at hAnswer
          rcases
              run_search_found host level state limit place rest
                value hAnswer with
            ⟨hValue, hExchanges⟩
          refine ⟨[place], ?_, ?_⟩
          · rw [hValue]
            exact .found place rest value hHere
          · simp [hExchanges, exchange, hHere]
      | error e =>
          rw [hHere] at hAnswer
          by_cases hUp : LeadsUp e
          · rcases
                run_search_further host level state limit place
                  rest e hAnswer hUp with
              ⟨hValue, hExchanges⟩
            rcases
                ih (host.answer (.pathconf place limit) state).2
              with
              ⟨asked, hRest, hRestExchanges⟩
            refine ⟨place :: asked, ?_, ?_⟩
            · rw [hValue]
              exact
                .further place rest _ asked ⟨e, hHere, hUp⟩
                  hRest
            · simp [hExchanges, hRestExchanges, exchange, hHere]
          · rcases
                run_search_ended host level state limit place
                  rest e hAnswer hUp with
              ⟨hValue, hExchanges⟩
            refine ⟨[place], ?_, ?_⟩
            · rw [hValue]
              exact .ended place rest e hHere hUp
            · simp [hExchanges, exchange, hHere]

end Runs

end Kernel

end CallDiagnosis

------------------------------------------------------------
-- What a Search Finds
------------------------------------------------------------

namespace CallDiagnosis

namespace Kernel

section Reports

variable (reply : String → Except Errno Int64)
variable (value : Int64)

/-
  The kernel reports a value at one of the places, and leads
  further up at all places before it.
-/
def ReportsFirst
    (places : List String) :
    Prop :=
  ∃ before place after,
    places = before ++ place :: after ∧
      (∀ earlier ∈ before, PassesOn reply earlier) ∧
      reply place = .ok value

theorem not_reportsFirst_nil :
    ¬ ReportsFirst reply value [] := by
  rintro ⟨before, place, after, hPlaces, -⟩
  simp at hPlaces

/- A place that passes a search on reports nothing itself. -/
theorem reportsFirst_cons_of_passesOn
    (place : String)
    (rest : List String)
    (hPasses : PassesOn reply place) :
    ReportsFirst reply value (place :: rest) ↔
      ReportsFirst reply value rest := by
  constructor
  · rintro ⟨before, found, after, hPlaces, hBefore, hReply⟩
    cases before with
    | nil =>
        rw [List.nil_append, List.cons.injEq] at hPlaces
        rw [hPlaces.1] at hPasses
        exact absurd hPasses (not_passesOn_of_ok hReply)
    | cons first others =>
        rw [List.cons_append, List.cons.injEq] at hPlaces
        rw [List.forall_mem_cons] at hBefore
        exact
          ⟨others, found, after, hPlaces.2, hBefore.2, hReply⟩
  · rintro ⟨before, found, after, rfl, hBefore, hReply⟩
    refine ⟨place :: before, found, after, rfl, ?_, hReply⟩
    exact List.forall_mem_cons.mpr ⟨hPasses, hBefore⟩

/- Any other place decides what is reported. -/
theorem reportsFirst_cons_of_not_passesOn
    (place : String)
    (rest : List String)
    (hStays : ¬ PassesOn reply place) :
    ReportsFirst reply value (place :: rest) ↔
      reply place = .ok value := by
  constructor
  · rintro ⟨before, found, after, hPlaces, hBefore, hReply⟩
    cases before with
    | nil =>
        rw [List.nil_append, List.cons.injEq] at hPlaces
        rwa [hPlaces.1]
    | cons first others =>
        rw [List.cons_append, List.cons.injEq] at hPlaces
        rw [List.forall_mem_cons, ← hPlaces.1] at hBefore
        exact absurd hBefore.1 hStays
  · intro hReply
    exact ⟨[], place, rest, rfl, by simp, hReply⟩

end Reports

namespace Searched

variable {limit : PathLimit}
variable {reply : String → Except Errno Int64}
variable {places asked : List String}
variable {outcome : Except Fault Int64}

/- A search finds the first value that is reported. -/
theorem eq_ok_iff
    (hSearched : Searched limit reply places outcome asked)
    (value : Int64) :
    outcome = .ok value ↔
      ReportsFirst reply value places := by
  induction hSearched with
  | exhausted =>
      simp [notFound, not_reportsFirst_nil]
  | found place rest found hReply =>
      rw [reportsFirst_cons_of_not_passesOn reply value place
        rest (not_passesOn_of_ok hReply), hReply,
        Except.ok.injEq, Except.ok.injEq]
  | ended place rest e hReply hEnd =>
      rw [reportsFirst_cons_of_not_passesOn reply value place
        rest (mt (passesOn_of_error hReply).mp hEnd), hReply]
      simp [notFound]
  | further place rest outcome asked hPasses hRest ih =>
      rw [reportsFirst_cons_of_passesOn reply value place rest
        hPasses]
      exact ih

/- A search that finds no value says that there is none. -/
theorem eq_notFound
    (hSearched : Searched limit reply places outcome asked)
    (hNone : ∀ value, outcome ≠ .ok value) :
    outcome = notFound limit := by
  induction hSearched with
  | exhausted => rfl
  | found place rest value => exact absurd rfl (hNone value)
  | ended place rest e => rfl
  | further place rest outcome asked hPasses hRest ih =>
      exact ih hNone

/-
  The places are asked about in their order, as long as they
  lead further up, and no longer.
-/
theorem asked_until_end
    (hSearched : Searched limit reply places outcome asked) :
    ∃ unasked,
      places = asked ++ unasked ∧
      (∀ place ∈ asked.dropLast, PassesOn reply place) ∧
      (unasked ≠ [] →
        ∃ last ∈ asked.getLast?, ¬ PassesOn reply last) := by
  induction hSearched with
  | exhausted => exact ⟨[], by simp⟩
  | found place rest value hReply =>
      exact
        ⟨rest, rfl, by simp,
          fun _ => ⟨place, rfl, not_passesOn_of_ok hReply⟩⟩
  | ended place rest e hReply hEnd =>
      exact
        ⟨rest, rfl, by simp,
          fun _ =>
            ⟨place, rfl,
              mt (passesOn_of_error hReply).mp hEnd⟩⟩
  | further place rest outcome asked hPasses hRest ih =>
      rcases ih with ⟨unasked, hPlaces, hLed, hStopped⟩
      refine ⟨unasked, by rw [hPlaces, List.cons_append], ?_, ?_⟩
      · intro earlier hEarlier
        cases asked with
        | nil => simp at hEarlier
        | cons next others =>
            rw [List.dropLast_cons_cons, List.mem_cons]
              at hEarlier
            rcases hEarlier with rfl | hLater
            · exact hPasses
            · exact hLed earlier hLater
      · intro hUnasked
        rcases hStopped hUnasked with ⟨last, hLast, hStays⟩
        refine ⟨last, ?_, hStays⟩
        rw [List.getLast?_cons, Option.mem_def.mp hLast]
        rfl

end Searched

end Kernel

end CallDiagnosis

------------------------------------------------------------
-- The Limit of a Path
------------------------------------------------------------

namespace CallDiagnosis

namespace Kernel

open CallDiagnosis.Path

/- A kernel can be asked about all places of a climb, or none. -/
theorem passable_of_mem_candidates
    (path place : String)
    (hPath : Passable path)
    (hPlace : place ∈ candidates path) :
    Passable place := by
  rcases List.mem_map.mp hPlace with ⟨chars, hChars, rfl⟩
  intro hNull
  rw [String.toList_ofList] at hNull
  rcases mem_of_mem_climb path.toList chars hChars _ hNull with
    hMember | hDot
  · exact hPath hMember
  · exact absurd hDot (by decide)

/-
  What has to be found by a search for the limit of a path,
  and what may be asked for it.
-/
structure Answered
    {σ : Type}
    (limit : PathLimit)
    (reply : String → Except Errno Int64)
    (path : String)
    (r : Run system σ (Except Fault Int64)) :
    Prop where
  refused :
    ¬ Passable path →
    r.value = .error (.invalidArgument .path) ∧
      r.exchanges = []
  found :
    Passable path →
    ∀ value,
      r.value = .ok value ↔
        ReportsFirst reply value (candidates path)
  unsupported :
    Passable path →
    (∀ value, r.value ≠ .ok value) →
    r.value = .error (.unsupported (.ofPath limit))
  asked :
    Passable path →
    ∃ asked unasked,
      candidates path = asked ++ unasked ∧
      (∀ place ∈ asked, Passable place) ∧
      r.exchanges = asked.map (exchange limit reply) ∧
      (∀ place ∈ asked.dropLast, PassesOn reply place) ∧
      (unasked ≠ [] →
        ∃ last ∈ asked.getLast?, ¬ PassesOn reply last)
  short :
    (candidates path).length ≤ path.toList.count '/' + 2 ∧
      r.exchanges.length ≤ path.toList.count '/' + 2

/-
  Against any kernel that answers by the place alone, at any
  log level, the limit of a path is the value reported at the
  first place of the climb that does not lead further up, if
  a value is reported there, and else it is not supported.
  That place is the last one that is asked about.
-/
theorem limit_found_at_first_place
    {σ : Type}
    (host : Host system σ)
    (level : Log.Level)
    (state : σ)
    (limit : PathLimit)
    (path : String)
    (reply : String → Except Errno Int64)
    (hReply :
      ∀ place later,
        (host.answer (.pathconf place limit) later).1 =
          reply place) :
    Answered limit reply path
      ((pathLimit limit path).run host level state) := by
  have hShort := length_candidates_le path
  rcases
      searched_search host level state limit reply hReply
        (candidates path) with
    ⟨asked, hSearched, hExchanges⟩
  rcases hSearched.asked_until_end with
    ⟨unasked, hPlaces, hLed, hStopped⟩
  by_cases hPath : Passable path
  · rw [pathLimit, if_pos hPath]
    constructor
    case refused =>
      intro hNot
      exact absurd hPath hNot
    case found =>
      intro _
      exact hSearched.eq_ok_iff
    case unsupported =>
      intro _
      exact hSearched.eq_notFound
    case asked =>
      intro _
      refine
        ⟨asked, unasked, hPlaces, ?_, hExchanges, hLed,
          hStopped⟩
      intro place hPlace
      apply passable_of_mem_candidates path place hPath
      rw [hPlaces]
      exact List.mem_append_left unasked hPlace
    case short =>
      refine ⟨hShort, ?_⟩
      rw [hPlaces, List.length_append] at hShort
      rw [hExchanges, List.length_map]
      omega
  · rw [pathLimit, if_neg hPath]
    constructor
    case refused =>
      intro _
      exact ⟨rfl, rfl⟩
    case found =>
      intro hPassable
      exact absurd hPassable hPath
    case unsupported =>
      intro hPassable
      exact absurd hPassable hPath
    case asked =>
      intro hPassable
      exact absurd hPassable hPath
    case short =>
      exact ⟨hShort, by simp⟩

/- Below a file that is no directory, the file itself is asked. -/
theorem limit_found_at_first_place_of_device :
    (∀ place later,
      (Tree.standard.host.answer
          (.pathconf place .nameMax) later).1 =
        Tree.standard.limit place .nameMax) ∧
    Passable "/dev/null/a//b/" ∧
    ((pathLimit .nameMax "/dev/null/a//b/").run
        Tree.standard.host .off ()).value = .ok 255 := by
  have hReply :
      ∀ place later,
        (Tree.standard.host.answer
            (.pathconf place .nameMax) later).1 =
          Tree.standard.limit place .nameMax :=
    fun _ _ => rfl
  have hPath : Passable "/dev/null/a//b/" := by decide
  have hAnswered :=
    limit_found_at_first_place Tree.standard.host .off ()
      .nameMax "/dev/null/a//b/" _ hReply
  refine ⟨hReply, hPath, ?_⟩
  rw [hAnswered.found hPath]
  have hSecond :
      nextCandidate? "/dev/null/a//b/".toList =
        some "/dev/null/a/".toList := by
    decide
  have hThird :
      nextCandidate? "/dev/null/a/".toList =
        some "/dev/null".toList := by
    decide
  have hCandidates :
      candidates "/dev/null/a//b/" =
        ["/dev/null/a//b/", "/dev/null/a/"] ++
          candidates "/dev/null" := by
    unfold candidates
    rw [climb_of_some _ _ hSecond, climb_of_some _ _ hThird]
    rfl
  rcases
      List.head?_eq_some_iff.mp
        (head?_climb "/dev/null".toList) with
    ⟨rest, hRest⟩
  refine
    ⟨["/dev/null/a//b/", "/dev/null/a/"], "/dev/null",
      rest.map String.ofList, ?_, ?_, by decide⟩
  · rw [hCandidates]
    unfold candidates
    rw [hRest]
    rfl
  · simp only [List.forall_mem_cons, List.not_mem_nil,
      false_implies, implies_true, and_true]
    exact
      ⟨⟨.enotdir, by decide, by simp [LeadsUp]⟩,
        ⟨.enotdir, by decide, by simp [LeadsUp]⟩⟩

end Kernel

end CallDiagnosis
