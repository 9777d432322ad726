import CallDiagnosis.Settings

/-
  What a directive does to the settings.

  Key theorems include:
    * `CallDiagnosis.Directive.ofName?_eq_some_iff`
    * `CallDiagnosis.Settings.set_cases`
    * `CallDiagnosis.Settings.engine_change?`

  A directive that is granted changes the one setting it is
  about, to what its arguments mean.  All that is said about
  single settings follows from this.
-/

------------------------------------------------------------
-- Parts of a Directive
------------------------------------------------------------

namespace CallDiagnosis

/- A word names a directive if it is the name but for case. -/
theorem Directive.ofName?_eq_some_iff
    (word : String)
    (d : Directive) :
    ofName? word = some d ↔ Folded.Same word d.name := by
  constructor
  · intro hFound
    simpa using List.find?_some hFound
  · intro hSame
    have hName : ofName? word = ofName? d.name := by
      unfold ofName?
      congr 1
      funext other
      apply decide_eq_decide.mpr
      rw [Folded.Same, Folded.Same, hSame]
    rw [hName]
    cases d <;> decide

namespace Settings

/- A sequence is granted only if each of its parts is. -/
theorem exists_of_bind_eq_ok
    {α β : Type}
    {first : Except DirectiveFault α}
    {rest : α → Except DirectiveFault β}
    {value : β}
    (hGranted : (first >>= rest) = .ok value) :
    ∃ a, first = .ok a ∧ rest a = .ok value := by
  cases first with
  | error fault => cases hGranted
  | ok a => exact ⟨a, rfl, hGranted⟩

theorem onlyWord_eq_ok
    {directive : Directive}
    {arguments : List String}
    {word : String}
    (hWord : onlyWord directive arguments = .ok word) :
    arguments = [word] := by
  match arguments with
  | [] => cases hWord
  | [only] => rw [Except.ok.inj hWord]
  | _ :: _ :: _ => cases hWord

theorem switchOf_eq_ok
    {directive : Directive}
    {word : String}
    {state : Bool}
    (hState : switchOf directive word = .ok state) :
    switchOfWord? word = some state := by
  unfold switchOf at hState
  split at hState
  · rename_i hMeant
    rw [hMeant, Except.ok.inj hState]
  · cases hState

theorem verbosityOf_eq_ok
    {word : String}
    {verbosity : Verbosity}
    (hVerbosity : verbosityOf word = .ok verbosity) :
    Verbosity.ofWord? word = some verbosity := by
  unfold verbosityOf at hVerbosity
  split at hVerbosity
  · rename_i hMeant
    rw [hMeant, Except.ok.inj hVerbosity]
  · cases hVerbosity

end Settings

end CallDiagnosis

------------------------------------------------------------
-- Directives that are Granted
------------------------------------------------------------

namespace CallDiagnosis

namespace Settings

variable (s after : Settings)
variable (arguments : List String)

/- All that a directive can do to the settings. -/
theorem set_cases
    (directive : Directive)
    (hSet : s.set arguments directive = .ok after) :
    (directive = .engine ∧
      ∃ word state,
        arguments = [word] ∧
        switchOfWord? word = some state ∧
        after = { s with engine := state }) ∨
    (directive = .options ∧
      arguments ≠ [] ∧
      ∃ options,
        addOptions s.options arguments = .ok options ∧
        after = { s with options := options }) ∨
    (directive = .verbosity ∧
      ∃ word verbosity,
        arguments = [word] ∧
        Verbosity.ofWord? word = some verbosity ∧
        after = { s with verbosity := verbosity }) := by
  cases directive with
  | engine =>
      rcases exists_of_bind_eq_ok hSet with
        ⟨word, hWord, hRest⟩
      rcases exists_of_bind_eq_ok hRest with
        ⟨state, hState, hAfter⟩
      exact .inl
        ⟨rfl, word, state, onlyWord_eq_ok hWord,
          switchOf_eq_ok hState, (Except.ok.inj hAfter).symm⟩
  | options =>
      by_cases hNone : arguments = []
      · rw [set, if_pos hNone] at hSet
        cases hSet
      · rw [set, if_neg hNone] at hSet
        rcases exists_of_bind_eq_ok hSet with
          ⟨options, hOptions, hAfter⟩
        exact .inr (.inl
          ⟨rfl, hNone, options, hOptions,
            (Except.ok.inj hAfter).symm⟩)
  | verbosity =>
      rcases exists_of_bind_eq_ok hSet with
        ⟨word, hWord, hRest⟩
      rcases exists_of_bind_eq_ok hRest with
        ⟨verbosity, hVerbosity, hAfter⟩
      exact .inr (.inr
        ⟨rfl, word, verbosity, onlyWord_eq_ok hWord,
          verbosityOf_eq_ok hVerbosity,
          (Except.ok.inj hAfter).symm⟩)

/- A directive about the engine sets it, and no other does. -/
theorem engine_change?
    (name : String)
    (hChange : s.change? name arguments = .ok after) :
    (Folded.Same name Directive.engine.name ∧
      ∃ word,
        arguments = [word] ∧
        switchOfWord? word = some after.engine) ∨
    (¬ Folded.Same name Directive.engine.name ∧
      after.engine = s.engine) := by
  rw [← Directive.ofName?_eq_some_iff]
  unfold change? at hChange
  cases hName : Directive.ofName? name with
  | none => simp [hName] at hChange
  | some directive =>
      rw [hName] at hChange
      rcases set_cases s after arguments directive hChange with
        ⟨rfl, word, state, hWord, hState, rfl⟩ |
        ⟨rfl, -, options, -, rfl⟩ |
        ⟨rfl, word, verbosity, -, -, rfl⟩
      · exact .inl ⟨rfl, word, hWord, hState⟩
      · exact .inr ⟨by decide, rfl⟩
      · exact .inr ⟨by decide, rfl⟩

end Settings

end CallDiagnosis
