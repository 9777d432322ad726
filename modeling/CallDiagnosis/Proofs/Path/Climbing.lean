import CallDiagnosis.Path.Ancestors
import Mathlib.Data.List.Chain

/-
  The places that a climb comes to.

  Key definitions include:
    * `CallDiagnosis.Path.Cut`
    * `CallDiagnosis.Path.Upward`
    * `CallDiagnosis.Path.ClimbsToRoot`
    * `CallDiagnosis.Path.WidelyRooted`

  Key theorems include:
    * `CallDiagnosis.Path.upward_nextCandidate?`
    * `CallDiagnosis.Path.length_candidates_le`
    * `CallDiagnosis.Path.absolute_climbs_to_root_iff`

  One step of a climb is told once, by how its path is made
  up: of what stands before the last slash, of a name, and of
  the slashes at the end.  Each step takes a slash away, so a
  climb has not many more places than its path has slashes.
  A path that starts at the root climbs to the root, unless
  it starts with more slashes than a climb can take away.
-/

------------------------------------------------------------
-- Cutting at the Last Slash
------------------------------------------------------------

namespace CallDiagnosis

namespace Path

/- A text of slashes only. -/
def AllSlashes
    (text : List Char) :
    Prop :=
  ∀ c ∈ text, c = '/'

/-
  What is left of a text that is cut at the last slash before
  its last name.
-/
inductive Cut :
    List Char → Option (List Char) → Prop where
| whole
    (name slashes : List Char)
    (hName : '/' ∉ name)
    (hSlashes : AllSlashes slashes) :
    Cut (name ++ slashes) none
| before
    (front name slashes : List Char)
    (hNonempty : name ≠ [])
    (hName : '/' ∉ name)
    (hSlashes : AllSlashes slashes) :
    Cut (front ++ '/' :: (name ++ slashes)) (some front)

/- What a text ends in is told from what stands before. -/
theorem exists_dropWhile_reverse
    (holds : Char → Bool)
    (text : List Char) :
    ∃ ending,
      text = (text.reverse.dropWhile holds).reverse ++ ending ∧
      ∀ c ∈ ending, holds c = true := by
  refine ⟨(text.reverse.takeWhile holds).reverse, ?_, ?_⟩
  · rw [← List.reverse_append, List.takeWhile_append_dropWhile,
      List.reverse_reverse]
  · intro c hMember
    exact
      List.all_eq_true.mp List.all_takeWhile c
        (List.mem_reverse.mp hMember)

theorem cut_beforeLastSlash?
    (text : List Char) :
    Cut text (beforeLastSlash? text) := by
  rcases exists_dropWhile_reverse (· = '/') text with
    ⟨slashes, hText, hSlashes⟩
  have hAll : AllSlashes slashes := by
    simpa [AllSlashes] using hSlashes
  have hEnd :=
    List.head?_dropWhile_not (· = '/') text.reverse
  unfold beforeLastSlash?
  generalize text.reverse.dropWhile (· = '/') = trimmed
    at hText hEnd
  rcases exists_dropWhile_reverse (· ≠ '/') trimmed.reverse
    with ⟨name, hTrimmed, hName⟩
  rw [List.reverse_reverse] at hTrimmed
  have hFree : '/' ∉ name := by
    intro hMember
    simpa using hName '/' hMember
  have hSlash := List.head?_dropWhile_not (· ≠ '/') trimmed
  rw [hText, hTrimmed]
  generalize trimmed.dropWhile (· ≠ '/') = left
    at hTrimmed hSlash
  cases left with
  | nil => exact .whole name slashes hFree hAll
  | cons c front =>
      have hC : c = '/' := by simpa using hSlash
      subst hC
      have hNonempty : name ≠ [] := by
        rintro rfl
        have hLast : trimmed = '/' :: front := by
          simpa using congrArg List.reverse hTrimmed
        simp [hLast] at hEnd
      simpa using
        Cut.before front.reverse name slashes hNonempty hFree
          hAll

end Path

end CallDiagnosis

------------------------------------------------------------
-- One Step of a Climb
------------------------------------------------------------

namespace CallDiagnosis

namespace Path

/- Where a climb goes from a path, for each make of a path. -/
inductive Upward :
    List Char → Option (List Char) → Prop where
| root : Upward ['/'] none
| here : Upward ['.'] none
| toHere
    (name slashes : List Char)
    (hName : '/' ∉ name)
    (hSlashes : AllSlashes slashes)
    (hRoot : name ++ slashes ≠ ['/'])
    (hHere : name ++ slashes ≠ ['.']) :
    Upward (name ++ slashes) (some ['.'])
| toRoot
    (name slashes : List Char)
    (hNonempty : name ≠ [])
    (hName : '/' ∉ name)
    (hSlashes : AllSlashes slashes) :
    Upward ('/' :: (name ++ slashes)) (some ['/'])
| above
    (front name slashes : List Char)
    (hFront : front ≠ [])
    (hNonempty : name ≠ [])
    (hName : '/' ∉ name)
    (hSlashes : AllSlashes slashes) :
    Upward (front ++ '/' :: (name ++ slashes)) (some front)

theorem upward_nextCandidate?
    (path : List Char) :
    Upward path (nextCandidate? path) := by
  have hCut := cut_beforeLastSlash? path
  unfold nextCandidate?
  by_cases hEnd : path = ['/'] ∨ path = ['.']
  · rw [if_pos hEnd]
    rcases hEnd with rfl | rfl
    · exact .root
    · exact .here
  · rw [if_neg hEnd]
    rw [not_or] at hEnd
    generalize beforeLastSlash? path = left at hCut
    cases hCut with
    | whole name slashes hName hSlashes =>
        exact .toHere name slashes hName hSlashes hEnd.1 hEnd.2
    | before front name slashes hNonempty hName hSlashes =>
        cases front with
        | nil =>
            exact
              .toRoot name slashes hNonempty hName hSlashes
        | cons c front =>
            exact
              .above (c :: front) name slashes (by simp)
                hNonempty hName hSlashes

/- A climb ends where there is no place to go. -/
theorem climb_of_none
    (path : List Char)
    (hNext : nextCandidate? path = none) :
    climb path = [path] := by
  rw [climb]
  split
  · rfl
  · rename_i next hSome
    rw [hNext] at hSome
    contradiction

/- It goes on from the place that comes next. -/
theorem climb_of_some
    (path next : List Char)
    (hNext : nextCandidate? path = some next) :
    climb path = path :: climb next := by
  rw [climb]
  split
  · rename_i hNone
    rw [hNext] at hNone
    contradiction
  · rename_i other hSome
    rw [hNext, Option.some.injEq] at hSome
    rw [hSome]

@[simp] theorem climb_root :
    climb ['/'] = [['/']] :=
  climb_of_none _ (by decide)

@[simp] theorem climb_here :
    climb ['.'] = [['.']] :=
  climb_of_none _ (by decide)

/- A climb starts with the path itself. -/
theorem head?_climb
    (path : List Char) :
    (climb path).head? = some path := by
  cases hNext : nextCandidate? path with
  | none => rw [climb_of_none path hNext, List.head?_cons]
  | some next =>
      rw [climb_of_some path next hNext, List.head?_cons]

end Path

end CallDiagnosis

------------------------------------------------------------
-- How Long a Climb is
------------------------------------------------------------

namespace CallDiagnosis

namespace Path

/-
  A climb has at most two places more than its path has
  slashes.  Each place above another has one slash less, and
  only the last place need not have one.
-/
theorem length_climb_le
    (path : List Char) :
    (climb path).length ≤ path.count '/' + 2 := by
  induction path using climb.induct with
  | case1 path hNext =>
      rw [climb_of_none path hNext, List.length_singleton]
      omega
  | case2 path next hNext _ ih =>
      rw [climb_of_some path next hNext, List.length_cons]
      have hUpward := upward_nextCandidate? path
      rw [hNext] at hUpward
      cases hUpward with
      | toHere name slashes => simp
      | toRoot name slashes => simp
      | above front name slashes =>
          rw [List.count_append, List.count_cons_self]
          omega

theorem length_candidates_le
    (path : String) :
    (candidates path).length ≤ path.toList.count '/' + 2 := by
  rw [candidates, List.length_map]
  exact length_climb_le path.toList

/- Only characters of the path and a dot are ever asked for. -/
theorem mem_of_mem_climb
    (path : List Char)
    (place : List Char)
    (hPlace : place ∈ climb path)
    (c : Char)
    (hMember : c ∈ place) :
    c ∈ path ∨ c = '.' := by
  induction path using climb.induct with
  | case1 path hNext =>
      rw [climb_of_none path hNext, List.mem_singleton]
        at hPlace
      rw [← hPlace]
      exact .inl hMember
  | case2 path next hNext _ ih =>
      rw [climb_of_some path next hNext, List.mem_cons]
        at hPlace
      rcases hPlace with rfl | hAbove
      · exact .inl hMember
      · have hUpward := upward_nextCandidate? path
        rw [hNext] at hUpward
        rcases ih hAbove with hNextMember | hDot
        · cases hUpward with
          | toHere name slashes =>
              exact .inr (List.mem_singleton.mp hNextMember)
          | toRoot name slashes =>
              rw [List.mem_singleton.mp hNextMember]
              simp
          | above front name slashes =>
              exact .inl (List.mem_append_left _ hNextMember)
        · exact .inr hDot

end Path

end CallDiagnosis

------------------------------------------------------------
-- Climbs that Start at the Root
------------------------------------------------------------

namespace CallDiagnosis

namespace Path

/-
  A path starts with more slashes than a climb takes away.
  Two are too many for a path without a name, and three for
  any path.
-/
def WidelyRooted
    (path : List Char) :
    Prop :=
  path = ['/', '/'] ∨ ['/', '/', '/'] <+: path

instance
    (path : List Char) :
    Decidable (WidelyRooted path) := by
  unfold WidelyRooted
  infer_instance

/- A place lies above another if its path goes on to it. -/
def Above
    (place next : List Char) :
    Prop :=
  next <+: place ∧ next.length < place.length

/- Slashes alone are too many if there is more than one. -/
theorem widelyRooted_of_allSlashes
    (path : List Char)
    (hSlashes : AllSlashes path)
    (hLong : 1 < path.length) :
    WidelyRooted path := by
  match path with
  | [] => simp at hLong
  | [_] => simp at hLong
  | [a, b] =>
      simp only [AllSlashes, List.forall_mem_cons] at hSlashes
      exact .inl (by rw [hSlashes.1, hSlashes.2.1])
  | a :: b :: c :: rest =>
      simp only [AllSlashes, List.forall_mem_cons] at hSlashes
      exact .inr (by
        rw [hSlashes.1, hSlashes.2.1, hSlashes.2.2.1]
        exact ⟨rest, rfl⟩)

/- The root itself lies above slashes that are too many. -/
theorem above_root_of_widelyRooted
    (path : List Char)
    (hWide : WidelyRooted path) :
    Above path ['/'] := by
  rcases hWide with rfl | ⟨rest, rfl⟩
  · exact ⟨by decide, by decide⟩
  · exact ⟨⟨['/', '/'] ++ rest, rfl⟩, by simp⟩

/- A name does not start with a slash. -/
theorem exists_cons_of_name
    {name : List Char}
    (hNonempty : name ≠ [])
    (hName : '/' ∉ name) :
    ∃ first others, name = first :: others ∧ '/' ≠ first := by
  rcases List.exists_cons_of_ne_nil hNonempty with
    ⟨first, others, rfl⟩
  rw [List.mem_cons, not_or] at hName
  exact ⟨first, others, rfl, hName.1⟩

/- A name and what follows it do not change what is in front. -/
theorem widelyRooted_append_name
    (front name slashes : List Char)
    (hFront : front.head? = some '/')
    (hNonempty : name ≠ [])
    (hName : '/' ∉ name) :
    WidelyRooted (front ++ '/' :: (name ++ slashes)) ↔
      WidelyRooted front := by
  rcases exists_cons_of_name hNonempty hName with
    ⟨first, others, rfl, hFirst⟩
  match front with
  | [a] =>
      simp [WidelyRooted, List.cons_prefix_cons, hFirst]
  | [a, b] =>
      simp [WidelyRooted, List.cons_prefix_cons,
        @eq_comm _ '/']
  | a :: b :: c :: rest =>
      simp [WidelyRooted, List.cons_prefix_cons]

/-
  From the root downwards a climb leads to the working
  directory or to a place above that starts at the root, too,
  and has as many slashes in front as the path.
-/
theorem Upward.of_absolute
    {path next : List Char}
    (hUpward : Upward path (some next))
    (hAbsolute : path.head? = some '/') :
    (next = ['.'] ∧ WidelyRooted path) ∨
    (next.head? = some '/' ∧ Above path next ∧
      (WidelyRooted next ↔ WidelyRooted path)) := by
  cases hUpward with
  | toHere name slashes hName hSlashes hRoot =>
      have hNone : name = [] := by
        cases name with
        | nil => rfl
        | cons first others =>
            have hFirst : first = '/' := by
              simpa using hAbsolute
            simp [hFirst] at hName
      subst hNone
      rw [List.nil_append] at hAbsolute hRoot ⊢
      refine
        .inl ⟨rfl, widelyRooted_of_allSlashes _ hSlashes ?_⟩
      match slashes with
      | [] => simp at hAbsolute
      | [c] =>
          have hC : c = '/' := by simpa using hAbsolute
          exact absurd (by rw [hC]) hRoot
      | _ :: _ :: _ => simp
  | toRoot name slashes hNonempty hName =>
      rcases exists_cons_of_name hNonempty hName with
        ⟨first, others, rfl, hFirst⟩
      refine .inr ⟨rfl, ⟨?_, ?_⟩, ?_⟩
      · exact ⟨first :: others ++ slashes, rfl⟩
      · simp
      · simp [WidelyRooted, List.cons_prefix_cons, hFirst,
          hFirst.symm]
  | above front name slashes hFront hNonempty hName =>
      have hHead : next.head? = some '/' := by
        rwa [List.head?_append_of_ne_nil _ hFront] at hAbsolute
      refine .inr ⟨hHead, ⟨?_, ?_⟩, ?_⟩
      · exact List.prefix_append _ _
      · simp
      · exact
          (widelyRooted_append_name next name slashes hHead
            hNonempty hName).symm

/-
  The places of a climb that starts at the root do so, too,
  and each lies above the one before it.  The last one is the
  root, unless the path has too many slashes in front: then
  the climb comes to slashes alone, and goes on to the working
  directory.
-/
theorem climb_of_absolute
    (path : List Char)
    (hAbsolute : path.head? = some '/') :
    ∃ places last,
      (∀ place ∈ places, place.head? = some '/') ∧
      places.IsChain Above ∧
      places.head? = some path ∧
      places.getLast? = some last ∧
      if WidelyRooted path then
        climb path = places ++ [['.']] ∧ Above last ['/']
      else
        climb path = places ∧ last = ['/'] := by
  induction path using climb.induct with
  | case1 path hNext =>
      have hUpward := upward_nextCandidate? path
      rw [hNext] at hUpward
      have hRoot : path = ['/'] := by
        cases hUpward with
        | root => rfl
        | here => simp at hAbsolute
      subst hRoot
      refine ⟨[['/']], ['/'], ?_, ?_, rfl, rfl, ?_⟩
      · simp
      · simp
      · rw [if_neg (by decide)]
        exact ⟨climb_root, rfl⟩
  | case2 path next hNext _ ih =>
      have hUpward := upward_nextCandidate? path
      rw [hNext] at hUpward
      rw [climb_of_some path next hNext]
      rcases hUpward.of_absolute hAbsolute with
        ⟨rfl, hWide⟩ | ⟨hHead, hAbove, hSame⟩
      · refine ⟨[path], path, ?_, ?_, rfl, rfl, ?_⟩
        · simpa using hAbsolute
        · simp
        · rw [if_pos hWide, climb_here]
          exact ⟨rfl, above_root_of_widelyRooted path hWide⟩
      · rcases ih hHead with
          ⟨places, last, hAll, hChain, hFirst, hLast, hEnd⟩
        refine ⟨path :: places, last, ?_, ?_, rfl, ?_, ?_⟩
        · simpa [hAbsolute] using hAll
        · refine hChain.cons ?_
          intro first hMember
          rw [hFirst] at hMember
          rw [← Option.some.inj hMember]
          exact hAbove
        · rw [List.getLast?_cons, hLast]
          rfl
        · by_cases hWide : WidelyRooted path
          · rw [if_pos (hSame.mpr hWide)] at hEnd
            rw [if_pos hWide, hEnd.1]
            exact ⟨rfl, hEnd.2⟩
          · rw [if_neg (mt hSame.mp hWide)] at hEnd
            rw [if_neg hWide, hEnd.1]
            exact ⟨rfl, hEnd.2⟩

end Path

end CallDiagnosis

------------------------------------------------------------
-- Places to Ask
------------------------------------------------------------

namespace CallDiagnosis

namespace Path

/-
  The places to ask about a path start at the root, each of
  them is a shorter beginning of the one before it, and the
  last one is the root.
-/
structure ClimbsToRoot
    (path : String) :
    Prop where
  absolute : ∀ place ∈ candidates path, IsAbsolute place
  narrowing :
    (candidates path).IsChain
      (fun place next =>
        next.toList <+: place.toList ∧
          next.utf8ByteSize < place.utf8ByteSize)
  ending : (candidates path).getLast? = some "/"

/- A path that goes on has more bytes. -/
theorem utf8ByteSize_lt_of_above
    (place next : List Char)
    (hAbove : Above place next) :
    (String.ofList next).utf8ByteSize <
      (String.ofList place).utf8ByteSize := by
  rcases hAbove with ⟨⟨rest, rfl⟩, hLonger⟩
  have hRest : String.ofList rest ≠ "" := by
    intro hEmpty
    have hNil : rest = [] := by
      simpa using congrArg String.toList hEmpty
    simp [hNil] at hLonger
  have hSize : 0 < (String.ofList rest).utf8ByteSize := by
    rw [Nat.pos_iff_ne_zero, ne_eq,
      String.utf8ByteSize_eq_zero_iff]
    exact hRest
  rw [String.ofList_append, String.utf8ByteSize_append]
  omega

/-
  For a path that starts at the root, the places to ask climb
  to the root exactly if the path does not start with three
  slashes and is not two slashes alone.  They are shorter and
  shorter in any case.  Where there are too many slashes, the
  working directory is asked after all the others, and these
  start at the root and are beginnings of one another.
-/
theorem absolute_climbs_to_root_iff
    (path : String)
    (hAbsolute : IsAbsolute path) :
    (ClimbsToRoot path ↔ ¬ WidelyRooted path.toList) ∧
    (candidates path).IsChain
      (fun place next =>
        next.utf8ByteSize < place.utf8ByteSize) ∧
    (WidelyRooted path.toList →
      ∃ above,
        candidates path = above ++ ["."] ∧
        (∀ place ∈ above, IsAbsolute place) ∧
        above.IsChain
          (fun place next => next.toList <+: place.toList)) := by
  rcases climb_of_absolute path.toList hAbsolute with
    ⟨places, last, hAll, hChain, -, hLast, hEnd⟩
  have hAbsolutes :
      ∀ place ∈ places.map String.ofList, IsAbsolute place := by
    simpa [IsAbsolute] using hAll
  have hNarrowing :
      (places.map String.ofList).IsChain
        (fun place next =>
          next.toList <+: place.toList ∧
            next.utf8ByteSize < place.utf8ByteSize) := by
    rw [List.isChain_map]
    refine hChain.imp ?_
    intro place next hAbove
    refine ⟨?_, utf8ByteSize_lt_of_above place next hAbove⟩
    simpa using hAbove.1
  have hShorter :
      (places.map String.ofList).IsChain
        (fun place next =>
          next.utf8ByteSize < place.utf8ByteSize) :=
    hNarrowing.imp (fun _ _ hBoth => hBoth.2)
  by_cases hWide : WidelyRooted path.toList
  · rw [if_pos hWide] at hEnd
    have hCandidates :
        candidates path = places.map String.ofList ++ ["."] := by
      rw [candidates, hEnd.1, List.map_append]
      rfl
    refine ⟨?_, ?_, fun _ => ?_⟩
    · refine iff_of_false ?_ (not_not_intro hWide)
      intro hRoot
      have hHere := hRoot.absolute "." (by simp [hCandidates])
      exact absurd hHere (by decide)
    · rw [hCandidates]
      refine hShorter.append (List.isChain_singleton _) ?_
      intro place hPlace next hNext
      rw [List.getLast?_map, hLast] at hPlace
      rw [← Option.some.inj hPlace, ← Option.some.inj hNext]
      exact utf8ByteSize_lt_of_above last ['/'] hEnd.2
    · exact
        ⟨_, hCandidates, hAbsolutes,
          hNarrowing.imp (fun _ _ hBoth => hBoth.1)⟩
  · rw [if_neg hWide] at hEnd
    have hCandidates :
        candidates path = places.map String.ofList := by
      rw [candidates, hEnd.1]
    have hRoot : ClimbsToRoot path := by
      constructor
      · rwa [hCandidates]
      · rwa [hCandidates]
      · rw [hCandidates, List.getLast?_map, hLast, hEnd.2]
        rfl
    refine ⟨iff_of_true hRoot hWide, ?_, fun h => ?_⟩
    · rwa [hCandidates]
    · exact absurd h hWide

/- Two slashes in front are not too many if a name follows. -/
theorem absolute_climbs_to_root_of_doubled :
    IsAbsolute "//srv//ftp/" ∧
    ClimbsToRoot "//srv//ftp/" := by
  have hAbsolute : IsAbsolute "//srv//ftp/" := by decide
  refine ⟨hAbsolute, ?_⟩
  rw [(absolute_climbs_to_root_iff _ hAbsolute).1]
  decide

/- But from two slashes alone a climb leaves the root. -/
theorem not_climbsToRoot_of_two_slashes :
    ¬ ∀ path, IsAbsolute path → ClimbsToRoot path := by
  intro hRoot
  have hNext : nextCandidate? ['/', '/'] = some ['.'] := by
    decide
  have hCandidates : candidates "//" = ["//", "."] := by
    change (climb ['/', '/']).map String.ofList = _
    rw [climb_of_some _ _ hNext, climb_here]
    rfl
  have hHere :=
    (hRoot "//" (by decide)).absolute "." (by simp [hCandidates])
  exact absurd hHere (by decide)

end Path

end CallDiagnosis
