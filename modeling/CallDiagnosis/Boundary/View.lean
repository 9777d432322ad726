import CallDiagnosis.Fault

/-
  Texts that cross the boundary to a host.

  Key definitions include:
    * `CallDiagnosis.Boundary.TextView`
    * `CallDiagnosis.Boundary.TextView.read?`
    * `CallDiagnosis.Boundary.Slot`
    * `CallDiagnosis.Boundary.Memory`
    * `CallDiagnosis.Boundary.write`

  A host lends its texts as bytes, which need not be text at
  all, and it may pass nothing where a text is expected.  In
  return it offers a slot for the answer.  A text in the slot
  belongs to the host, so the slot must not keep one that the
  library did not put there.  The text is put into memory that
  the process has to grant first, and it may have none left.
-/

------------------------------------------------------------
-- Texts from the Host
------------------------------------------------------------

namespace CallDiagnosis

namespace Boundary

/-
  What a host passes where a text is expected: nothing, a
  length without data, or bytes.
-/
inductive TextView where
| missing
| noData (length : UInt64)
| lent (bytes : ByteArray)

namespace TextView

/-
  The text that a host passed, if it passed one.  Without data
  only the empty text can be meant.
-/
def read? :
    TextView → Option String
| .missing => none
| .noData length => if length = 0 then some "" else none
| .lent bytes => String.fromUTF8? bytes

end TextView

end Boundary

end CallDiagnosis

------------------------------------------------------------
-- Texts for the Host
------------------------------------------------------------

namespace CallDiagnosis

namespace Boundary

/-
  What the slot for an answer holds: nothing, a new text of
  the library's, or what the host had left in it.
-/
inductive Slot where
| cleared
| fresh (text : String)
| stale (text : String)
deriving DecidableEq

/- Clear the slot, if the host offered one. -/
def clear
    (out : Option Slot) :
    Option Slot :=
  out.map (fun _ => .cleared)

/- How many bytes at once the process grants when asked. -/
structure Memory where
  grants : Nat → Bool

namespace Memory

/- Memory that never runs out. -/
def ample : Memory :=
  ⟨fun _ => true⟩

/- There is room for a text and the null byte at its end. -/
def Holds
    (m : Memory)
    (text : String) :
    Prop :=
  m.grants (text.utf8ByteSize + 1) = true

instance
    (m : Memory)
    (text : String) :
    Decidable (m.Holds text) :=
  inferInstanceAs
    (Decidable (m.grants (text.utf8ByteSize + 1) = true))

end Memory

/-
  Put a text into the slot.  The host has to offer one, and
  without memory for the text the slot stays as it is.
-/
def write
    (memory : Memory)
    (text : String) :
    Option Slot → Status × Option Slot
| none => (.invalidArgument, none)
| some slot =>
    if memory.Holds text then
      (.ok, some (.fresh text))
    else
      (.ioError, some slot)

end Boundary

end CallDiagnosis
