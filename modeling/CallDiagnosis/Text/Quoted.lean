import CallDiagnosis.Text.Invisible

/-
  Quoted text.

  Key definitions include:
    * `CallDiagnosis.Quoted.escape`
    * `CallDiagnosis.Quoted.quote`

  Quoted text stands between double quotes.  A double quote
  and a backslash are written after a backslash, the usual
  blanks by a letter, and every other character without a
  form of its own by its number in base sixteen.  A single
  quote stays as it is.
-/

------------------------------------------------------------
-- Quoting
------------------------------------------------------------

namespace CallDiagnosis

namespace Quoted

/- A character written by its number in base sixteen. -/
def numbered
    (c : Char) :
    List Char :=
  ['\\', 'u', '\x7b'] ++ Nat.toDigits 16 c.toNat ++ ['\x7d']

/- The written form of one character inside quotes. -/
def escape
    (c : Char) :
    List Char :=
  if c = '"' then ['\\', '"']
  else if c = '\\' then ['\\', '\\']
  else if c = '\t' then ['\\', 't']
  else if c = '\n' then ['\\', 'n']
  else if c = '\r' then ['\\', 'r']
  else if c = '\x00' then ['\\', '0']
  else if Invisible.Holds c then numbered c
  else [c]

/- The quoted form of a text. -/
def quote
    (s : String) :
    String :=
  String.ofList ('"' :: s.toList.flatMap escape ++ ['"'])

end Quoted

end CallDiagnosis
