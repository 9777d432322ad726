import CallDiagnosis.Diagnosis.Cause

/-
  Sentences told apart by how they end.

  Key definitions include:
    * `CallDiagnosis.EndsIn`
    * `CallDiagnosis.Diagnosis.OfCall`

  Key theorems include:
    * `CallDiagnosis.EndsIn.ne`
    * `CallDiagnosis.Diagnosis.endsIn_shared`
    * `CallDiagnosis.Diagnosis.text_ne_of_ofCall`

  A sentence may begin as another one does, with a path or
  with the word for a directory, and only its last words say
  what is wrong.  The sentences that a single call has for
  itself end in words in which no other sentence ends, so no
  reader takes one of them for another.
-/

------------------------------------------------------------
-- Texts and Their Endings
------------------------------------------------------------

namespace CallDiagnosis

/- A text that has certain words at its end. -/
def EndsIn
    (ending text : String) :
    Prop :=
  ending.toList <:+ text.toList

instance
    (ending text : String) :
    Decidable (EndsIn ending text) :=
  inferInstanceAs (Decidable (ending.toList <:+ text.toList))

/- Two endings that no text has both. -/
def EndingsApart
    (ending other : String) :
    Prop :=
  ¬ EndsIn ending other ∧ ¬ EndsIn other ending

instance
    (ending other : String) :
    Decidable (EndingsApart ending other) :=
  inferInstanceAs
    (Decidable (¬ EndsIn ending other ∧ ¬ EndsIn other ending))

namespace EndsIn

variable {ending other : String}

/- How a text ends is how its last part ends. -/
theorem append
    {first last : String}
    (hLast : EndsIn ending last) :
    EndsIn ending (first ++ last) := by
  unfold EndsIn at hLast ⊢
  rw [String.toList_append]
  exact hLast.trans (List.suffix_append _ _)

/- A text has no two endings that are apart. -/
theorem ne
    {first second : String}
    (hFirst : EndsIn ending first)
    (hSecond : EndsIn other second)
    (hApart : EndingsApart ending other) :
    first ≠ second := by
  rintro rfl
  rcases List.suffix_or_suffix_of_suffix hFirst hSecond with
    hWithin | hWithin
  · exact hApart.1 hWithin
  · exact hApart.2 hWithin

end EndsIn

end CallDiagnosis

------------------------------------------------------------
-- Endings of Sentences
------------------------------------------------------------

namespace CallDiagnosis

namespace Diagnosis

/- A diagnosis that only one call can have. -/
def OfCall :
    Diagnosis → Prop
| .openedDirectory _ => True
| .readOnlyFilesystem _ => True
| .unlinkedDirectory _ => True
| .stickyDirectory _ _ _ => True
| _ => False

/- The endings of sentences that only one call can have. -/
def callEndings : List String :=
  ["for writing", "create it", "not remove", "may remove it"]

/- The endings of all other sentences. -/
def sharedEndings : List String :=
  [")", "'", "not exist", "by the user", "to be resolved",
    "file", "directory", "symbolic link", "told not to wait",
    "open", "reached", "finish", "memory", "in hardware",
    "to succeed", "system call"]

section Own

variable (directory path : String)
variable (owner : UInt32)

theorem endsIn_openedDirectory :
    EndsIn "for writing" (openedDirectory path).text :=
  .append (by decide)

theorem endsIn_readOnlyFilesystem :
    EndsIn "create it" (readOnlyFilesystem path).text :=
  .append (by decide)

theorem endsIn_unlinkedDirectory :
    EndsIn "not remove" (unlinkedDirectory path).text :=
  .append (by decide)

theorem endsIn_stickyDirectory :
    EndsIn "may remove it"
      (stickyDirectory directory path owner).text :=
  .append (by decide)

end Own

theorem endsIn_ofCall
    {diagnosis : Diagnosis}
    (hOwn : diagnosis.OfCall) :
    ∃ ending ∈ callEndings, EndsIn ending diagnosis.text := by
  cases diagnosis with
  | openedDirectory path =>
      exact
        ⟨_, by decide, endsIn_openedDirectory path⟩
  | readOnlyFilesystem path =>
      exact
        ⟨_, by decide, endsIn_readOnlyFilesystem path⟩
  | unlinkedDirectory path =>
      exact
        ⟨_, by decide, endsIn_unlinkedDirectory path⟩
  | stickyDirectory directory path owner =>
      exact
        ⟨_, by decide,
          endsIn_stickyDirectory directory path owner⟩
  | _ => exact hOwn.elim

theorem endsIn_noun
    (expected : ExpectedKind) :
    ∃ ending ∈ sharedEndings, EndsIn ending expected.noun := by
  cases expected with
  | unspecified => exact ⟨"file", by decide, by decide⟩
  | regular => exact ⟨"file", by decide, by decide⟩
  | directory => exact ⟨"directory", by decide, by decide⟩
  | symlink => exact ⟨"symbolic link", by decide, by decide⟩

theorem endsIn_cause
    (call : String)
    (cause : GeneralCause) :
    ∃ ending ∈ sharedEndings,
      EndsIn ending (cause.text call) := by
  cases cause with
  | wouldWait =>
      exact ⟨"told not to wait", by decide, .append (by decide)⟩
  | processFilesExhausted =>
      exact ⟨"open", by decide, .append (by decide)⟩
  | systemFilesExhausted =>
      exact ⟨"reached", by decide, .append (by decide)⟩
  | interrupted =>
      exact ⟨"finish", by decide, .append (by decide)⟩
  | badAddress =>
      exact ⟨"memory", by decide, .append (by decide)⟩
  | hardwareFailure =>
      exact ⟨"in hardware", by decide, .append (by decide)⟩
  | outOfMemory =>
      exact
        ⟨"to succeed", by decide, .append (.append (by decide))⟩
  | notPrivileged =>
      exact
        ⟨"system call", by decide,
          .append (.append (by decide))⟩
  | unknown =>
      exact
        ⟨"system call", by decide,
          .append (.append (by decide))⟩

/- Any other sentence has one of the endings they share. -/
theorem endsIn_shared
    (diagnosis : Diagnosis)
    (hShared : ¬ diagnosis.OfCall) :
    ∃ ending ∈ sharedEndings,
      EndsIn ending diagnosis.text := by
  cases diagnosis with
  | openedDirectory path => exact absurd trivial hShared
  | readOnlyFilesystem path => exact absurd trivial hShared
  | unlinkedDirectory path => exact absurd trivial hShared
  | stickyDirectory directory path owner =>
      exact absurd trivial hShared
  | pathTooLong path limit =>
      exact ⟨")", by decide, .append (.append (by decide))⟩
  | nameTooLong name limit =>
      exact ⟨")", by decide, .append (.append (by decide))⟩
  | unresolvable path =>
      exact ⟨"to be resolved", by decide, .append (by decide)⟩
  | missingDirectory path =>
      exact ⟨"not exist", by decide, .append (by decide)⟩
  | missingLeaf expected path =>
      exact ⟨"not exist", by decide, .append (by decide)⟩
  | danglingLink path =>
      exact ⟨"not exist", by decide, .append (by decide)⟩
  | notDirectory path =>
      exact ⟨"directory", by decide, .append (by decide)⟩
  | notSearchable directory =>
      exact ⟨"by the user", by decide, .append (by decide)⟩
  | notWritable directory =>
      exact ⟨"by the user", by decide, .append (by decide)⟩
  | tooManyLinks path =>
      exact ⟨"'", by decide, .append (.append (by decide))⟩
  | wrongKind path found expected =>
      rcases endsIn_noun expected with
        ⟨ending, hMember, hNoun⟩
      exact ⟨ending, hMember, .append (.append hNoun)⟩
  | refused attempt expected path container =>
      cases container with
      | none =>
          exact ⟨"'", by decide, .append (.append (by decide))⟩
      | some c =>
          exact
            ⟨")", by decide,
              .append (.append (.append (by decide)))⟩
  | kernelMemory call =>
      exact
        ⟨"to succeed", by decide, .append (.append (by decide))⟩
  | general call cause => exact endsIn_cause call cause

/- No sentence is shared that only one call can have. -/
theorem text_ne_of_ofCall
    {own other : Diagnosis}
    (hOwn : own.OfCall)
    (hOther : ¬ other.OfCall) :
    other.text ≠ own.text := by
  have hApart :
      ∀ shared ∈ sharedEndings, ∀ single ∈ callEndings,
        EndingsApart shared single := by
    decide
  rcases endsIn_shared other hOther with
    ⟨shared, hShared, hOtherEnds⟩
  rcases endsIn_ofCall hOwn with ⟨single, hSingle, hOwnEnds⟩
  exact hOtherEnds.ne hOwnEnds (hApart _ hShared _ hSingle)

end Diagnosis

end CallDiagnosis
