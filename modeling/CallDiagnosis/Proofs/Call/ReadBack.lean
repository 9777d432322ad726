import CallDiagnosis.Proofs.Call.Outcome
import CallDiagnosis.Proofs.Text.Framing
import CallDiagnosis.Proofs.Text.Octal
import CallDiagnosis.Scenario

/-
  What the text of an opening tells about it.

  Key definitions include:
    * `CallDiagnosis.Opening`
    * `CallDiagnosis.Opening.Alike`
    * `CallDiagnosis.Opening.Shows`

  Key theorems include:
    * `CallDiagnosis.Opening.names_eq_iff`
    * `CallDiagnosis.Opening.text_eq_iff`
    * `CallDiagnosis.Opening.arguments_read_back`

  The arguments of an opening are shown in three fields.  The
  first two contain no comma, so that they end at the next
  one, and the path is all the rest up to the last quote.
  Therefore the text tells the path, the mode and all that is
  ever made of the flags.
-/

------------------------------------------------------------
-- Openings
------------------------------------------------------------

namespace CallDiagnosis

/- The arguments with which a file is opened. -/
structure Opening where
  path : String
  flags : Int32
  mode : UInt32

/- A bit is set in both of two words or in neither. -/
def SameBit
    (bit first second : Int32) :
    Prop :=
  first &&& bit ≠ 0 ↔ second &&& bit ≠ 0

instance
    (bit first second : Int32) :
    Decidable (SameBit bit first second) :=
  inferInstanceAs
    (Decidable (first &&& bit ≠ 0 ↔ second &&& bit ≠ 0))

namespace Opening

/- The text of the arguments. -/
def text
    (o : Opening) :
    String :=
  Explain.openText o.path o.flags o.mode

/-
  Two openings have the same path and mode, the same way of
  access, and the same ones of the flags with a name.
-/
structure Alike
    (first second : Opening) :
    Prop where
  path : first.path = second.path
  mode : first.mode = second.mode
  readOnly : first.flags &&& 3 = 0 ↔ second.flags &&& 3 = 0
  writeOnly : first.flags &&& 3 = 1 ↔ second.flags &&& 3 = 1
  append : SameBit 0o2000 first.flags second.flags
  create : SameBit 0o100 first.flags second.flags
  exclusive : SameBit 0o200 first.flags second.flags
  nonBlocking : SameBit 0o4000 first.flags second.flags
  truncate : SameBit 0o1000 first.flags second.flags

/- What an explanation shows as the arguments of an opening. -/
inductive Shows
    (o : Opening) :
    String → Prop where
| explained
    {σ : Type}
    (host : Host surroundings σ)
    (level : Log.Level)
    (state : σ)
    (c : Context)
    (e : Errno)
    (x : Explanation)
    (hExplained :
      ((Explain.openFile c e
          (.openFile o.path o.flags o.mode)).run
        host level state).value = .ok x) :
    Shows o x.arguments

end Opening

end CallDiagnosis

------------------------------------------------------------
-- Flags
------------------------------------------------------------

namespace CallDiagnosis

variable {first second : Int32}

theorem AccessMode.ofFlags_eq_readOnly_iff
    (flags : Int32) :
    ofFlags flags = .readOnly ↔ flags &&& 3 = 0 := by
  unfold ofFlags
  split
  · simp [*]
  · split <;> simp [*]

theorem AccessMode.ofFlags_eq_writeOnly_iff
    (flags : Int32) :
    ofFlags flags = .writeOnly ↔ flags &&& 3 = 1 := by
  unfold ofFlags
  split
  · rename_i hReadOnly
    simp [hReadOnly]
  · split <;> simp [*]

/- The way of access is told by two comparisons. -/
theorem AccessMode.ofFlags_eq_iff :
    ofFlags first = ofFlags second ↔
      (first &&& 3 = 0 ↔ second &&& 3 = 0) ∧
      (first &&& 3 = 1 ↔ second &&& 3 = 1) := by
  rw [← ofFlags_eq_readOnly_iff, ← ofFlags_eq_readOnly_iff,
    ← ofFlags_eq_writeOnly_iff, ← ofFlags_eq_writeOnly_iff]
  cases ofFlags first <;> cases ofFlags second <;> simp

/- There are three ways of access, each with its own name. -/
theorem AccessMode.name_injective :
    Function.Injective name := by
  intro a b hName
  cases a <;> cases b <;> simp_all [name]

/- Each flag has its own name. -/
theorem OpenFlag.name_injective :
    Function.Injective name := by
  intro a b hName
  cases a <;> cases b <;> simp_all [name]

/- Every flag with a name is among those that are shown. -/
theorem OpenFlag.mem_all
    (flag : OpenFlag) :
    flag ∈ all := by
  cases flag <;> simp [all]

/- Words alike in their access and flags have the same names. -/
theorem OpenFlags.names_eq_iff :
    names first = names second ↔
      AccessMode.ofFlags first = AccessMode.ofFlags second ∧
      ∀ flag : OpenFlag,
        flag.IsSet first ↔ flag.IsSet second := by
  rw [names, names, List.cons.injEq,
    AccessMode.name_injective.eq_iff,
    (List.map_injective_iff.mpr
      OpenFlag.name_injective).eq_iff]
  apply and_congr_right
  intro _
  constructor
  · intro hShown flag
    have hMember := congrArg (flag ∈ ·) hShown
    simpa [OpenFlag.mem_all] using hMember
  · intro hSet
    apply List.filter_congr
    intro flag _
    simp [hSet flag]

/- Words with the same names want the same from a path. -/
theorem OpenFlags.intent_eq_of_names_eq
    (hNames : names first = names second) :
    intent first = intent second := by
  rcases names_eq_iff.mp hNames with ⟨hAccess, hSet⟩
  unfold intent creationIntent truncationIntent
  simp only [hAccess, hSet]

/- No name contains a bar or a comma. -/
theorem OpenFlags.not_mem_of_mem_names
    (flags : Int32) :
    ∀ name ∈ names flags,
      '|' ∉ name.toList ∧ ',' ∉ name.toList := by
  intro name hName
  rw [names, List.mem_cons, List.mem_map] at hName
  rcases hName with rfl | ⟨flag, -, rfl⟩
  · cases AccessMode.ofFlags flags <;> decide
  · cases flag <;> decide

end CallDiagnosis

------------------------------------------------------------
-- Texts
------------------------------------------------------------

namespace CallDiagnosis

/- The names of a flag word are read back from its text. -/
theorem OpenFlags.text_eq_iff
    {first second : Int32} :
    text first = text second ↔ names first = names second := by
  constructor
  · intro hText
    have hJoined :
        ['|'].intercalate
            ((names first).map String.toList) =
          ['|'].intercalate
            ((names second).map String.toList) := by
      simpa [text, String.toList_intercalate] using
        congrArg String.toList hText
    have hNames :
        (names first).map String.toList =
          (names second).map String.toList := by
      apply Framing.joined_eq _ _ _ _ hJoined
      · intro field hField
        rcases List.mem_map.mp hField with ⟨name, hName, rfl⟩
        exact (not_mem_of_mem_names first name hName).1
      · intro field hField
        rcases List.mem_map.mp hField with ⟨name, hName, rfl⟩
        exact (not_mem_of_mem_names second name hName).1
      · simp [names]
      · simp [names]
    exact
      List.map_injective_iff.mpr
        (fun _ _ => String.toList_inj.mp) hNames
  · intro hNames
    rw [text, text, hNames]

/- A comma does not occur in the text of a flag word. -/
theorem OpenFlags.comma_not_mem_text
    (flags : Int32) :
    ',' ∉ (text flags).toList := by
  rw [text, String.toList_intercalate]
  apply Framing.not_mem_joined _ (by decide)
  intro field hField
  rcases List.mem_map.mp hField with ⟨name, hName, rfl⟩
  exact (not_mem_of_mem_names flags name hName).2

/- A comma does not occur in an octal numeral. -/
theorem OpenFlags.comma_not_mem_modeText
    (mode : UInt32) :
    ',' ∉ (modeText mode).toList := by
  intro hComma
  have hDigit :=
    (Octal.isNumeral_padded 3 mode.toNat
      (by omega)).digits _ hComma
  exact absurd hDigit (by decide)

/- A mode is read back from its numeral. -/
theorem OpenFlags.modeText_injective :
    Function.Injective modeText := by
  intro first second hText
  have hNumeral (mode : UInt32) :
      Nat.ofDigitChars 8 (modeText mode).toList 0 =
        mode.toNat :=
    (Octal.isNumeral_padded 3 mode.toNat (by omega)).reads
  apply UInt32.toNat_inj.mp
  rw [← hNumeral first, ← hNumeral second, hText]

namespace Opening

variable {first second : Opening}

/- The three fields of the text, with what stands between. -/
theorem toList_text
    (o : Opening) :
    o.text.toList =
      "flags = ".toList ++
        ((OpenFlags.text o.flags).toList ++
          ',' :: (" mode = ".toList ++
            ((OpenFlags.modeText o.mode).toList ++
              ',' :: (" path = '".toList ++
                (o.path.toList ++ ['\'']))))) := by
  simp [text, Explain.openText]
  rfl

/- Each field is read back, and the path is what is left. -/
theorem fields_of_text_eq
    (hText : first.text = second.text) :
    OpenFlags.text first.flags =
        OpenFlags.text second.flags ∧
      first.mode = second.mode ∧
      first.path = second.path := by
  have hFields := congrArg String.toList hText
  rw [toList_text, toList_text] at hFields
  rcases
      Framing.fields_eq
        (OpenFlags.comma_not_mem_text first.flags)
        (OpenFlags.comma_not_mem_text second.flags)
        (List.append_cancel_left hFields) with
    ⟨hFlags, hAfterFlags⟩
  rcases
      Framing.fields_eq
        (OpenFlags.comma_not_mem_modeText first.mode)
        (OpenFlags.comma_not_mem_modeText second.mode)
        (List.append_cancel_left hAfterFlags) with
    ⟨hMode, hAfterMode⟩
  have hPath : first.path.toList = second.path.toList :=
    List.append_cancel_right
      (List.append_cancel_left hAfterMode)
  exact
    ⟨String.toList_inj.mp hFlags,
      OpenFlags.modeText_injective (String.toList_inj.mp hMode),
      String.toList_inj.mp hPath⟩

/- Openings are alike if all that is shown of them is equal. -/
theorem alike_iff :
    first.Alike second ↔
      OpenFlags.names first.flags =
          OpenFlags.names second.flags ∧
        first.mode = second.mode ∧
        first.path = second.path := by
  rw [OpenFlags.names_eq_iff, AccessMode.ofFlags_eq_iff]
  constructor
  · intro hAlike
    refine ⟨⟨⟨hAlike.readOnly, hAlike.writeOnly⟩, ?_⟩,
      hAlike.mode, hAlike.path⟩
    intro flag
    cases flag with
    | append => exact hAlike.append
    | create => exact hAlike.create
    | exclusive => exact hAlike.exclusive
    | nonBlocking => exact hAlike.nonBlocking
    | truncate => exact hAlike.truncate
  · rintro ⟨⟨⟨hReadOnly, hWriteOnly⟩, hSet⟩, hMode, hPath⟩
    exact
      ⟨hPath, hMode, hReadOnly, hWriteOnly, hSet .append,
        hSet .create, hSet .exclusive, hSet .nonBlocking,
        hSet .truncate⟩

/- The text tells openings apart unless they are alike. -/
theorem text_eq_iff :
    first.text = second.text ↔ first.Alike second := by
  rw [alike_iff]
  constructor
  · intro hText
    rcases fields_of_text_eq hText with ⟨hFlags, hRest⟩
    exact ⟨OpenFlags.text_eq_iff.mp hFlags, hRest⟩
  · rintro ⟨hNames, hMode, hPath⟩
    rw [text, text, Explain.openText, Explain.openText,
      OpenFlags.text_eq_iff.mpr hNames, hMode, hPath]

end Opening

end CallDiagnosis

------------------------------------------------------------
-- Explanations
------------------------------------------------------------

namespace CallDiagnosis

namespace Opening

/- An opening by a path is explained, with its text. -/
theorem value_explained
    {σ : Type}
    (host : Host surroundings σ)
    (level : Log.Level)
    (state : σ)
    (c : Context)
    (e : Errno)
    (o : Opening)
    (hPath : o.path ≠ "") :
    ∃ x,
      ((Explain.openFile c e
          (.openFile o.path o.flags o.mode)).run
        host level state).value = .ok x ∧
      x.arguments = o.text := by
  rcases
      Explain.conclusive_openFinding host level state c e
        o.path (OpenFlags.intent o.flags) hPath with
    ⟨found, hFound, -⟩
  refine
    ⟨⟨.openFile, o.text, found.map Diagnosis.text⟩, ?_, rfl⟩
  rw [Explain.openFile, Explain.withPath, if_neg hPath,
    Inquiry.run_bind, Run.followedBy_value, hFound]
  rfl

/- What is shown for an opening is its text. -/
theorem Shows.eq_text
    {o : Opening}
    {shown : String}
    (hShows : o.Shows shown) :
    shown = o.text := by
  cases hShows with
  | explained host level state c e x hExplained =>
      have hPath : o.path ≠ "" := by
        intro hEmpty
        rw [Explain.openFile, Explain.withPath, if_pos hEmpty]
          at hExplained
        cases hExplained
      rcases
          o.value_explained host level state c e hPath with
        ⟨y, hValue, hArguments⟩
      rw [hExplained] at hValue
      rw [Except.ok.inj hValue, hArguments]

/-
  The explanation of an opening by a path shows a text for its
  arguments, whatever went wrong and whoever is asked.  Two of
  these texts are equal exactly if the paths, the modes, the
  ways of access and the flags with a name are; and then the
  openings want the same from their path.
-/
theorem arguments_read_back
    (first second : Opening) :
    (∀ {σ : Type} (host : Host surroundings σ)
        (level : Log.Level) (state : σ)
        (c : Context) (e : Errno),
      first.path ≠ "" →
      ∃ x,
        ((Explain.openFile c e
            (.openFile first.path first.flags
              first.mode)).run
          host level state).value = .ok x ∧
        first.Shows x.arguments) ∧
    ∀ shown other,
      first.Shows shown →
      second.Shows other →
      (shown = other ↔ first.Alike second) ∧
      (shown = other →
        OpenFlags.intent first.flags =
          OpenFlags.intent second.flags) := by
  constructor
  · intro σ host level state c e hPath
    rcases first.value_explained host level state c e hPath
      with ⟨x, hValue, -⟩
    exact ⟨x, hValue, .explained host level state c e x hValue⟩
  · intro shown other hFirst hSecond
    rw [hFirst.eq_text, hSecond.eq_text]
    refine ⟨text_eq_iff, ?_⟩
    intro hText
    rcases fields_of_text_eq hText with ⟨hFlags, -⟩
    exact OpenFlags.intent_eq_of_names_eq
      (OpenFlags.text_eq_iff.mp hFlags)

/- A file is created whose name looks like two fields. -/
def misleading : Opening :=
  ⟨"a, mode = 644, path = 'b", 0o101, 0o644⟩

/- It looks the same without what is inherited by programs. -/
def misleadingClosed : Opening :=
  { misleading with flags := 0o2000101 }

/- A name is told from the end of a longer one. -/
theorem arguments_read_back_of_misleading :
    (∃ shown,
      misleading.Shows shown ∧ misleadingClosed.Shows shown) ∧
    ∀ shown other,
      misleading.Shows shown →
      Shows ⟨"b", 0o101, 0o644⟩ other →
      shown ≠ other := by
  have hAlike : misleading.Alike misleadingClosed := by
    constructor <;> decide
  rcases
      (arguments_read_back misleading misleading).1
        Scenario.host .off ⟨[], 0, .standard⟩
        ⟨.empty, id, .idle⟩ .eacces (by decide) with
    ⟨x, -, hFirst⟩
  rcases
      (arguments_read_back misleadingClosed misleading).1
        Scenario.host .off ⟨[], 0, .standard⟩
        ⟨.empty, id, .idle⟩ .eacces (by decide) with
    ⟨y, -, hSecond⟩
  have hEqual : x.arguments = y.arguments :=
    ((arguments_read_back misleading misleadingClosed).2
      _ _ hFirst hSecond).1.mpr hAlike
  refine ⟨⟨x.arguments, hFirst, hEqual ▸ hSecond⟩, ?_⟩
  intro shown other hShown hOther hSame
  have hPath :=
    (((arguments_read_back misleading _).2
      _ _ hShown hOther).1.mp hSame).path
  exact absurd hPath (by decide)

end Opening

end CallDiagnosis
