import CallDiagnosis.Text.Folded

/-
  Directives and the values they take.

  Key definitions include:
    * `CallDiagnosis.Directive`
    * `CallDiagnosis.Directive.ofName?`
    * `CallDiagnosis.Verbosity`
    * `CallDiagnosis.OptionSet`

  A directive is a line of a host's configuration that sets
  one of the session's settings.  Names and values are read
  without regard to the case of ASCII letters.
-/

------------------------------------------------------------
-- Directives
------------------------------------------------------------

namespace CallDiagnosis

/- The setting that a directive is about. -/
inductive Directive where
| engine
| options
| verbosity
deriving DecidableEq

namespace Directive

/- The name of a directive as hosts write it. -/
def name :
    Directive → String
| .engine => "ExplainEngine"
| .options => "ExplainOptions"
| .verbosity => "ExplainVerbosity"

/- All directives. -/
def all : List Directive :=
  [.engine, .options, .verbosity]

/- The directive with a name, in any letter case. -/
def ofName?
    (s : String) :
    Option Directive :=
  all.find? (fun d => Folded.Same s d.name)

end Directive

end CallDiagnosis

------------------------------------------------------------
-- Values
------------------------------------------------------------

namespace CallDiagnosis

/- How much of a failed call is told. -/
inductive Verbosity where
| minimal
| terse
| detailed
deriving DecidableEq

namespace Verbosity

/- The verbosity with a number, if there is one. -/
def ofNumber? :
    Int → Option Verbosity
| 0 => some .minimal
| 1 => some .terse
| 2 => some .detailed
| _ => none

/- The word for a verbosity. -/
def word :
    Verbosity → String
| .minimal => "minimal"
| .terse => "terse"
| .detailed => "detailed"

/- The verbosity meant by a word, in any letter case. -/
def ofWord?
    (s : String) :
    Option Verbosity :=
  [minimal, terse, detailed].find?
    (fun v => Folded.lower s = v.word)

end Verbosity

/- The words for a switch that is on. -/
def onWords : List String :=
  ["on", "yes", "true", "1"]

/- The words for a switch that is off. -/
def offWords : List String :=
  ["off", "no", "false", "0"]

/- The state of a switch meant by a word, in any letter case. -/
def switchOfWord?
    (s : String) :
    Option Bool :=
  if Folded.lower s ∈ onWords then
    some true
  else if Folded.lower s ∈ offWords then
    some false
  else
    none

end CallDiagnosis

------------------------------------------------------------
-- Options
------------------------------------------------------------

namespace CallDiagnosis

/- A set of tuning switches, one bit for each. -/
structure OptionSet where
  bits : UInt32
deriving DecidableEq

namespace OptionSet

/- No switch at all. -/
def empty : OptionSet :=
  ⟨0⟩

/- The switches that have a name.  There are none yet. -/
def named : List (String × OptionSet) :=
  []

/- The switch with a name, in any letter case. -/
def ofName?
    (s : String) :
    Option OptionSet :=
  (named.find? (fun entry => Folded.Same entry.1 s)).map
    Prod.snd

/- The switches of either set. -/
def union
    (s t : OptionSet) :
    OptionSet :=
  ⟨s.bits ||| t.bits⟩

end OptionSet

end CallDiagnosis
