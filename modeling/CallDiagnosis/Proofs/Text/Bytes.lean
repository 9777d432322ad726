import Mathlib.Data.List.DropRight
import Mathlib.Tactic.SplitIfs

/-
  The bytes of a text, and the slashes among them.

  Key definitions include:
    * `CallDiagnosis.Bytes.ofText`
    * `CallDiagnosis.Bytes.encoded`
    * `CallDiagnosis.Bytes.lastSlash?`
    * `CallDiagnosis.Bytes.first?`

  Key theorems include:
    * `CallDiagnosis.Bytes.slash_mem_encoded_iff`
    * `CallDiagnosis.Bytes.lastSlash?_name`
    * `CallDiagnosis.Bytes.lastSlash?_before_name`
    * `CallDiagnosis.Bytes.first?_append`

  A text can be searched for a slash byte by byte, because no
  other character has the byte of a slash in it.  A text can
  be cut only where a character begins or where it ends.
-/

------------------------------------------------------------
-- Bytes of a Text
------------------------------------------------------------

namespace CallDiagnosis

namespace Bytes

/- The bytes in which a text is kept. -/
def ofText
    (text : String) :
    List UInt8 :=
  text.toByteArray.data.toList

/- The bytes that characters are written with. -/
def encoded
    (cs : List Char) :
    List UInt8 :=
  cs.flatMap String.utf8EncodeChar

/- The bytes of a text are those of its characters. -/
theorem ofText_ofList
    (cs : List Char) :
    ofText (String.ofList cs) = encoded cs := by
  rw [ofText, String.toByteArray_ofList, List.utf8Encode,
    List.data_toByteArray, encoded]

theorem length_encoded
    (cs : List Char) :
    (encoded cs).length = (String.ofList cs).utf8ByteSize := by
  rw [← ofText_ofList, ofText, Array.length_toList]
  rfl

theorem encoded_append
    (cs others : List Char) :
    encoded (cs ++ others) = encoded cs ++ encoded others := by
  rw [encoded, List.flatMap_append]
  rfl

/- The byte that stands for a slash. -/
def slash :
    UInt8 :=
  47

theorem encoded_slash_cons
    (cs : List Char) :
    encoded ('/' :: cs) = slash :: encoded cs := by
  rw [encoded, List.flatMap_cons]
  rfl

/- Other characters do not have it, however long they are. -/
theorem slash_mem_utf8EncodeChar_iff
    (c : Char) :
    slash ∈ String.utf8EncodeChar c ↔ c = '/' := by
  have hCode : c = '/' ↔ c.val.toNat = 47 := by
    constructor
    · rintro rfl
      rfl
    · intro hNumber
      apply Char.ext
      apply UInt32.toNat_inj.mp
      exact hNumber
  rw [hCode]
  unfold String.utf8EncodeChar slash
  generalize c.val.toNat = code
  -- Each byte of a longer character is 128 or more.
  dsimp only
  split_ifs <;> simp [← UInt8.toNat_inj] <;> omega

theorem slash_mem_encoded_iff
    (cs : List Char) :
    slash ∈ encoded cs ↔ '/' ∈ cs := by
  rw [encoded, List.mem_flatMap]
  constructor
  · rintro ⟨c, hMember, hByte⟩
    rw [slash_mem_utf8EncodeChar_iff] at hByte
    exact hByte ▸ hMember
  · intro hMember
    exact
      ⟨'/', hMember, (slash_mem_utf8EncodeChar_iff '/').mpr rfl⟩

theorem encoded_ne_nil
    (cs : List Char)
    (hNonempty : cs ≠ []) :
    encoded cs ≠ [] := by
  rcases List.exists_cons_of_ne_nil hNonempty with
    ⟨c, others, rfl⟩
  rw [encoded, List.flatMap_cons]
  exact List.append_ne_nil_of_left_ne_nil
    String.utf8EncodeChar_ne_nil _

/- Slashes alone are written with no other byte. -/
theorem eq_slash_of_mem_encoded
    (slashes : List Char)
    (hSlashes : ∀ c ∈ slashes, c = '/') :
    ∀ byte ∈ encoded slashes, byte = slash := by
  intro byte hByte
  rcases List.mem_flatMap.mp hByte with ⟨c, hMember, hByte⟩
  rw [hSlashes c hMember] at hByte
  exact List.mem_singleton.mp hByte

end Bytes

end CallDiagnosis

------------------------------------------------------------
-- The Last Slash
------------------------------------------------------------

namespace CallDiagnosis

namespace Bytes

/- The place of the last slash among some bytes. -/
def lastSlash? :
    List UInt8 → Option Nat
| [] => none
| byte :: rest =>
    match lastSlash? rest with
    | some place => some (place + 1)
    | none => if byte = slash then some 0 else none

theorem lastSlash?_of_not_mem
    (bytes : List UInt8)
    (hBytes : slash ∉ bytes) :
    lastSlash? bytes = none := by
  induction bytes with
  | nil => rfl
  | cons byte rest ih =>
      rw [List.mem_cons, not_or] at hBytes
      rw [lastSlash?, ih hBytes.2]
      exact if_neg (Ne.symm hBytes.1)

/- It stands behind as many bytes as there are before it. -/
theorem lastSlash?_append_slash
    (front name : List UInt8)
    (hName : slash ∉ name) :
    lastSlash? (front ++ slash :: name) = some front.length := by
  induction front with
  | nil =>
      rw [List.nil_append, lastSlash?,
        lastSlash?_of_not_mem name hName]
      exact if_pos rfl
  | cons byte rest ih =>
      rw [List.cons_append, lastSlash?, ih]
      rfl

/- Slashes at the end are dropped up to another byte. -/
theorem rdropWhile_append_slashes
    (front slashes : List UInt8)
    (hFront : front.getLast? ≠ some slash)
    (hSlashes : ∀ byte ∈ slashes, byte = slash) :
    (front ++ slashes).rdropWhile (· = slash) = front := by
  have hDropped :
      ∀ byte ∈ slashes.reverse, decide (byte = slash) := by
    simpa using hSlashes
  rw [List.rdropWhile, List.reverse_append,
    List.dropWhile_append_of_pos hDropped, ← List.rdropWhile,
    List.rdropWhile_eq_self_iff]
  intro hNonempty hLast
  apply hFront
  rw [List.getLast?_eq_some_getLast hNonempty]
  simpa using hLast

section Trimmed

variable (front name slashes : List UInt8)
variable (hName : slash ∉ name)
variable (hSlashes : ∀ byte ∈ slashes, byte = slash)

include hName hSlashes

/- A name is found without a slash, whatever follows it. -/
theorem lastSlash?_name :
    lastSlash? ((name ++ slashes).rdropWhile (· = slash)) =
      none := by
  rw [rdropWhile_append_slashes name slashes
    (mt List.mem_of_getLast? hName) hSlashes]
  exact lastSlash?_of_not_mem name hName

/- The slash before the last name is found. -/
theorem lastSlash?_before_name
    (hNonempty : name ≠ []) :
    lastSlash?
        ((front ++ slash :: (name ++ slashes)).rdropWhile
          (· = slash)) =
      some front.length := by
  have hEnd :
      (front ++ slash :: name).getLast? ≠ some slash := by
    rw [List.getLast?_append_of_ne_nil _ (List.cons_ne_nil _ _),
      List.getLast?_cons_of_ne_nil hNonempty]
    exact mt List.mem_of_getLast? hName
  have hSplit :
      front ++ slash :: (name ++ slashes) =
        (front ++ slash :: name) ++ slashes := by
    simp
  rw [hSplit, rdropWhile_append_slashes _ slashes hEnd hSlashes]
  exact lastSlash?_append_slash front name hName

end Trimmed

end Bytes

end CallDiagnosis

------------------------------------------------------------
-- Cutting a Text
------------------------------------------------------------

namespace CallDiagnosis

namespace Bytes

/-
  The first bytes of a text as a text.  There is no such text
  if the text is shorter, or if the last byte belongs to a
  character that goes on.
-/
def first?
    (text : String)
    (count : Nat) :
    Option String :=
  if hValid : String.Pos.Raw.IsValid text ⟨count⟩ then
    some (text.sliceTo (text.pos ⟨count⟩ hValid)).copy
  else
    none

/- A text can be cut behind the bytes of what it begins with. -/
theorem first?_append
    (before after : String) :
    first? (before ++ after) before.utf8ByteSize =
      some before := by
  have hValid :
      String.Pos.Raw.IsValid (before ++ after)
        ⟨before.utf8ByteSize⟩ :=
    String.Pos.Raw.isValid_iff_exists_append.mpr
      ⟨before, after, rfl, rfl⟩
  have hSplits :=
    String.Pos.splits_append_rawEndPos (s := before) (t := after)
  rw [first?, dif_pos hValid]
  exact congrArg some hSplits.copy_sliceTo_eq

end Bytes

end CallDiagnosis
