/-
  What a caller wanted from a path.

  Key definitions include:
    * `CallDiagnosis.Intent`
    * `CallDiagnosis.Intent.ofBits?`
    * `CallDiagnosis.Intent.WantsMutation`

  An intent is a set of wishes, one bit for each.  A host
  passes it as a number; a number with any other bit is
  not an intent.
-/

------------------------------------------------------------
-- Intents
------------------------------------------------------------

namespace CallDiagnosis

/- A set of wishes, one bit for each. -/
structure Intent where
  bits : UInt32
deriving DecidableEq

namespace Intent

instance : OrOp Intent where
  or i j := ⟨i.bits ||| j.bits⟩

/- To read the file. -/
def wantRead : Intent :=
  ⟨0x001⟩

/- To write to the file. -/
def wantWrite : Intent :=
  ⟨0x002⟩

/- To go through the directories on the way. -/
def wantSearch : Intent :=
  ⟨0x004⟩

/- To create the file. -/
def wantCreate : Intent :=
  ⟨0x008⟩

/- To change the contents of the file. -/
def wantModify : Intent :=
  ⟨0x010⟩

/- To remove the file. -/
def wantUnlink : Intent :=
  ⟨0x020⟩

/- The file has to exist. -/
def mustExist : Intent :=
  ⟨0x040⟩

/- The file must not exist. -/
def mustNotExist : Intent :=
  ⟨0x080⟩

/- The file has to be of the expected kind. -/
def mustHaveKind : Intent :=
  ⟨0x100⟩

/- All wishes there are. -/
def every : Intent :=
  ⟨0x1FF⟩

/- The intent holds all wishes of another. -/
def Contains
    (i j : Intent) :
    Prop :=
  i.bits &&& j.bits = j.bits

instance
    (i j : Intent) :
    Decidable (i.Contains j) :=
  inferInstanceAs (Decidable (i.bits &&& j.bits = j.bits))

/- The intent shares a wish with another. -/
def Meets
    (i j : Intent) :
    Prop :=
  i.bits &&& j.bits ≠ 0

instance
    (i j : Intent) :
    Decidable (i.Meets j) :=
  inferInstanceAs (Decidable (i.bits &&& j.bits ≠ 0))

/- The intent with the given bits, if all of them are wishes. -/
def ofBits?
    (bits : UInt32) :
    Option Intent :=
  if every.Contains ⟨bits⟩ then some ⟨bits⟩ else none

/-
  The caller wanted to change the file or the directory that
  contains it.
-/
def WantsMutation
    (i : Intent) :
    Prop :=
  i.Meets
    (wantWrite ||| wantCreate ||| wantModify ||| wantUnlink)

instance
    (i : Intent) :
    Decidable i.WantsMutation :=
  inferInstanceAs (Decidable (i.Meets _))

end Intent

end CallDiagnosis
