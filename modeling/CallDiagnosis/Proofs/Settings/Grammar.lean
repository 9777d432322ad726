import CallDiagnosis.Proofs.Settings.Change
import CallDiagnosis.Proofs.Text.Letters

/-
  The grammar of directives.

  Key definitions include:
    * `CallDiagnosis.Setting`
    * `CallDiagnosis.Says`
    * `CallDiagnosis.Refused`

  Key theorems include:
    * `CallDiagnosis.says_or_refused`
    * `CallDiagnosis.Settings.change?_eq_ok_iff`
    * `CallDiagnosis.Settings.change?_eq_error_iff`

  What a directive may look like is written down here in the
  words of a host's configuration.  A directive either says
  what one setting shall be or there is a reason to refuse
  it, and the settings are changed by it accordingly.
-/

------------------------------------------------------------
-- Sentences
------------------------------------------------------------

namespace CallDiagnosis

/- A single setting with its value. -/
inductive Setting where
| engine (state : Bool)
| verbosity (verbosity : Verbosity)

/- Put one setting in place and keep all others. -/
def Settings.put
    (s : Settings) :
    Setting → Settings
| .engine state => { s with engine := state }
| .verbosity verbosity => { s with verbosity := verbosity }

/- The words for the states of the engine. -/
def switchWords : List (String × Bool) :=
  [
    ("on", true), ("yes", true), ("true", true),
    ("1", true), ("off", false), ("no", false),
    ("false", false), ("0", false)
  ]

/- The words for how much is told. -/
def verbosityWords : List (String × Verbosity) :=
  [
    ("minimal", .minimal), ("terse", .terse),
    ("detailed", .detailed)
  ]

/- A word stands for a value in a table, but for case. -/
def StandsFor
    {α : Type}
    (table : List (String × α))
    (argument : String)
    (value : α) :
    Prop :=
  ∃ word, (word, value) ∈ table ∧ SameLetters argument word

/- A directive with its arguments says what a setting is. -/
inductive Says :
    String → List String → Setting → Prop where
| engine
    {name argument : String}
    {state : Bool}
    (hName : SameLetters name "ExplainEngine")
    (hWord : StandsFor switchWords argument state) :
    Says name [argument] (.engine state)
| verbosity
    {name argument : String}
    {verbosity : Verbosity}
    (hName : SameLetters name "ExplainVerbosity")
    (hWord : StandsFor verbosityWords argument verbosity) :
    Says name [argument] (.verbosity verbosity)

/- Why a directive with its arguments is refused. -/
inductive Refused :
    String → List String → DirectiveFault → Prop where
| engineCount
    {name : String}
    {arguments : List String}
    (hName : SameLetters name "ExplainEngine")
    (hCount : arguments.length ≠ 1) :
    Refused name arguments (.wrongCount .engine)
| engineWord
    {name argument : String}
    (hName : SameLetters name "ExplainEngine")
    (hWord :
      ∀ state, ¬ StandsFor switchWords argument state) :
    Refused name [argument] (.expectedBoolean .engine)
| optionsCount
    {name : String}
    (hName : SameLetters name "ExplainOptions") :
    Refused name [] (.wrongCount .options)
| optionsWord
    {name first : String}
    {rest : List String}
    (hName : SameLetters name "ExplainOptions") :
    Refused name (first :: rest) (.unknownOption first)
| verbosityCount
    {name : String}
    {arguments : List String}
    (hName : SameLetters name "ExplainVerbosity")
    (hCount : arguments.length ≠ 1) :
    Refused name arguments (.wrongCount .verbosity)
| verbosityWord
    {name argument : String}
    (hName : SameLetters name "ExplainVerbosity")
    (hWord :
      ∀ verbosity,
        ¬ StandsFor verbosityWords argument verbosity) :
    Refused name [argument] (.unknownVerbosity argument)
| unknownName
    {name : String}
    {arguments : List String}
    (hEngine : ¬ SameLetters name "ExplainEngine")
    (hOptions : ¬ SameLetters name "ExplainOptions")
    (hVerbosity : ¬ SameLetters name "ExplainVerbosity") :
    Refused name arguments (.unknownDirective name)

end CallDiagnosis

------------------------------------------------------------
-- Words
------------------------------------------------------------

namespace CallDiagnosis

/- A table of small words is looked up in small letters. -/
theorem standsFor_iff
    {α : Type}
    {table : List (String × α)}
    (hSmall :
      ∀ entry ∈ table, Folded.lower entry.1 = entry.1)
    (argument : String)
    (value : α) :
    StandsFor table argument value ↔
      (Folded.lower argument, value) ∈ table := by
  constructor
  · rintro ⟨word, hEntry, hLetters⟩
    have hLower : Folded.lower argument = word :=
      (Folded.lower_eq_iff_sameLetters argument word
        (hSmall _ hEntry)).mpr hLetters
    rwa [hLower]
  · intro hEntry
    exact ⟨Folded.lower argument, hEntry,
      (Folded.lower_eq_iff_sameLetters argument _
        (hSmall _ hEntry)).mp rfl⟩

theorem switchOfWord?_eq_some_iff
    (argument : String)
    (state : Bool) :
    switchOfWord? argument = some state ↔
      StandsFor switchWords argument state := by
  rw [standsFor_iff (by decide), switchOfWord?]
  have hApart : ∀ word ∈ onWords, word ∉ offWords := by
    decide
  have hEntry :
      (Folded.lower argument, state) ∈ switchWords ↔
        (Folded.lower argument ∈ onWords ∧ state = true) ∨
        (Folded.lower argument ∈ offWords ∧ state = false) := by
    change
      _ ∈ onWords.map (·, true) ++ offWords.map (·, false) ↔ _
    simp [eq_comm]
  rw [hEntry]
  by_cases hOn : Folded.lower argument ∈ onWords
  · simp [hOn, hApart _ hOn, eq_comm]
  · by_cases hOff : Folded.lower argument ∈ offWords
    · simp [hOn, hOff, eq_comm]
    · simp [hOn, hOff]

theorem Verbosity.ofWord?_eq_some_iff
    (argument : String)
    (verbosity : Verbosity) :
    ofWord? argument = some verbosity ↔
      StandsFor verbosityWords argument verbosity := by
  rw [standsFor_iff (by decide), ofWord?]
  constructor
  · intro hFound
    have hLower : Folded.lower argument = verbosity.word := by
      simpa using List.find?_some hFound
    rw [hLower]
    cases verbosity <;> decide
  · intro hEntry
    simp only [verbosityWords, List.mem_cons, Prod.mk.injEq,
      List.not_mem_nil, or_false] at hEntry
    rcases hEntry with
      ⟨hLower, rfl⟩ | ⟨hLower, rfl⟩ | ⟨hLower, rfl⟩
    · simp [hLower, word]
    · simp [hLower, word]
    · simp [hLower, word]

theorem Directive.ofName?_eq_some_iff_sameLetters
    (name : String)
    (d : Directive) :
    ofName? name = some d ↔ SameLetters name d.name :=
  (ofName?_eq_some_iff name d).trans
    (Folded.same_iff_sameLetters name d.name)

end CallDiagnosis

------------------------------------------------------------
-- Changes
------------------------------------------------------------

namespace CallDiagnosis

namespace Settings

/- The engine becomes what its only argument means. -/
theorem set_engine_singleton
    (s : Settings)
    (argument : String) :
    s.set [argument] .engine =
      (switchOf .engine argument).map
        (fun state => s.put (.engine state)) := by
  change (switchOf .engine argument >>= _) = _
  cases switchOf .engine argument with
  | error fault => rfl
  | ok state => rfl

/- The verbosity becomes what its only argument means. -/
theorem set_verbosity_singleton
    (s : Settings)
    (argument : String) :
    s.set [argument] .verbosity =
      (verbosityOf argument).map
        (fun verbosity => s.put (.verbosity verbosity)) := by
  change (verbosityOf argument >>= _) = _
  cases verbosityOf argument with
  | error fault => rfl
  | ok verbosity => rfl

/- Only a single word is taken where one is wanted. -/
theorem onlyWord_of_count
    (directive : Directive)
    {arguments : List String}
    (hCount : arguments.length ≠ 1) :
    onlyWord directive arguments =
      .error (.wrongCount directive) := by
  match arguments with
  | [] => rfl
  | [_] => exact absurd rfl hCount
  | _ :: _ :: _ => rfl

/- A directive that says something puts it in place. -/
theorem change?_of_says
    (s : Settings)
    {name : String}
    {arguments : List String}
    {setting : Setting}
    (hSays : Says name arguments setting) :
    s.change? name arguments = .ok (s.put setting) := by
  have hNamed :=
    Directive.ofName?_eq_some_iff_sameLetters name
  cases hSays with
  | @engine argument state hName hWord =>
      have hState : switchOfWord? argument = some state :=
        (switchOfWord?_eq_some_iff _ _).mpr hWord
      simp only [change?, (hNamed .engine).mpr hName,
        set_engine_singleton, switchOf, hState]
      rfl
  | @verbosity argument verbosity hName hWord =>
      have hVerbosity :
          Verbosity.ofWord? argument = some verbosity :=
        (Verbosity.ofWord?_eq_some_iff _ _).mpr hWord
      simp only [change?, (hNamed .verbosity).mpr hName,
        set_verbosity_singleton, verbosityOf, hVerbosity]
      rfl

/- A directive that is refused is refused for its reason. -/
theorem change?_of_refused
    (s : Settings)
    {name : String}
    {arguments : List String}
    {fault : DirectiveFault}
    (hRefused : Refused name arguments fault) :
    s.change? name arguments = .error fault := by
  have hNamed :=
    Directive.ofName?_eq_some_iff_sameLetters name
  cases hRefused with
  | engineCount hName hCount =>
      rw [change?, (hNamed .engine).mpr hName]
      simp only [set, onlyWord_of_count _ hCount]
      rfl
  | @engineWord argument hName hWord =>
      have hState : switchOfWord? argument = none := by
        apply Option.eq_none_iff_forall_ne_some.mpr
        intro state hState
        exact hWord state
          ((switchOfWord?_eq_some_iff _ _).mp hState)
      simp only [change?, (hNamed .engine).mpr hName,
        set_engine_singleton, switchOf, hState]
      rfl
  | optionsCount hName =>
      rw [change?, (hNamed .options).mpr hName]
      rfl
  | optionsWord hName =>
      rw [change?, (hNamed .options).mpr hName]
      rfl
  | verbosityCount hName hCount =>
      rw [change?, (hNamed .verbosity).mpr hName]
      simp only [set, onlyWord_of_count _ hCount]
      rfl
  | @verbosityWord argument hName hWord =>
      have hVerbosity : Verbosity.ofWord? argument = none := by
        apply Option.eq_none_iff_forall_ne_some.mpr
        intro verbosity hVerbosity
        exact hWord verbosity
          ((Verbosity.ofWord?_eq_some_iff _ _).mp hVerbosity)
      simp only [change?, (hNamed .verbosity).mpr hName,
        set_verbosity_singleton, verbosityOf, hVerbosity]
      rfl
  | unknownName hEngine hOptions hVerbosity =>
      have hUnknown : Directive.ofName? name = none := by
        apply Option.eq_none_iff_forall_ne_some.mpr
        intro directive hDirective
        cases directive with
        | engine =>
            exact hEngine ((hNamed _).mp hDirective)
        | options =>
            exact hOptions ((hNamed _).mp hDirective)
        | verbosity =>
            exact hVerbosity ((hNamed _).mp hDirective)
      rw [change?, hUnknown]

end Settings

/- A list of words has one word, or it has not. -/
theorem exists_singleton_or_length_ne
    (arguments : List String) :
    (∃ argument, arguments = [argument]) ∨
      arguments.length ≠ 1 := by
  rw [← List.length_eq_one_iff]
  exact Classical.em _

/- There is a reason for each directive that says nothing. -/
theorem says_or_refused
    (name : String)
    (arguments : List String) :
    (∃ setting, Says name arguments setting) ∨
      ∃ fault, Refused name arguments fault := by
  by_cases hEngine : SameLetters name "ExplainEngine"
  · rcases exists_singleton_or_length_ne arguments with
      ⟨argument, rfl⟩ | hCount
    · by_cases hWord :
          ∃ state, StandsFor switchWords argument state
      · rcases hWord with ⟨state, hState⟩
        exact .inl ⟨_, .engine hEngine hState⟩
      · exact .inr
          ⟨_, .engineWord hEngine (not_exists.mp hWord)⟩
    · exact .inr ⟨_, .engineCount hEngine hCount⟩
  · by_cases hOptions : SameLetters name "ExplainOptions"
    · cases arguments with
      | nil => exact .inr ⟨_, .optionsCount hOptions⟩
      | cons first rest =>
          exact .inr ⟨_, .optionsWord hOptions⟩
    · by_cases hVerbosity :
          SameLetters name "ExplainVerbosity"
      · rcases exists_singleton_or_length_ne arguments with
          ⟨argument, rfl⟩ | hCount
        · by_cases hWord :
              ∃ v, StandsFor verbosityWords argument v
          · rcases hWord with ⟨v, hMeant⟩
            exact .inl ⟨_, .verbosity hVerbosity hMeant⟩
          · exact .inr
              ⟨_, .verbosityWord hVerbosity
                (not_exists.mp hWord)⟩
        · exact .inr ⟨_, .verbosityCount hVerbosity hCount⟩
      · exact .inr
          ⟨_, .unknownName hEngine hOptions hVerbosity⟩

namespace Settings

variable (s : Settings)
variable (name : String)
variable (arguments : List String)

/- A directive is granted exactly if it says something. -/
theorem change?_eq_ok_iff
    (after : Settings) :
    s.change? name arguments = .ok after ↔
      ∃ setting,
        Says name arguments setting ∧
        after = s.put setting := by
  constructor
  · intro hChange
    rcases says_or_refused name arguments with
      ⟨setting, hSays⟩ | ⟨fault, hRefused⟩
    · rw [s.change?_of_says hSays] at hChange
      exact ⟨setting, hSays, (Except.ok.inj hChange).symm⟩
    · rw [s.change?_of_refused hRefused] at hChange
      cases hChange
  · rintro ⟨setting, hSays, rfl⟩
    exact s.change?_of_says hSays

/- A directive is refused exactly for a reason to do so. -/
theorem change?_eq_error_iff
    (fault : DirectiveFault) :
    s.change? name arguments = .error fault ↔
      Refused name arguments fault := by
  constructor
  · intro hChange
    rcases says_or_refused name arguments with
      ⟨setting, hSays⟩ | ⟨reason, hRefused⟩
    · rw [s.change?_of_says hSays] at hChange
      cases hChange
    · rw [s.change?_of_refused hRefused] at hChange
      rwa [← Except.error.inj hChange]
  · exact s.change?_of_refused

end Settings

end CallDiagnosis
