import CallDiagnosis.Fault
import CallDiagnosis.Inquiry.Basic

/-
  The settings of a session.

  Key definitions include:
    * `CallDiagnosis.Settings`
    * `CallDiagnosis.Settings.change?`
    * `CallDiagnosis.Settings.directive`
    * `CallDiagnosis.Settings.ofHost`

  A session has a switch for the whole engine, a verbosity
  and a set of tuning switches.  A directive changes exactly
  one of them, and a directive that is refused changes none.
-/

------------------------------------------------------------
-- Settings
------------------------------------------------------------

namespace CallDiagnosis

/- The settings of a session. -/
structure Settings where
  engine : Bool
  verbosity : Verbosity
  options : OptionSet
deriving DecidableEq

namespace Settings

/- The settings of a session that was told nothing. -/
def standard : Settings :=
  ⟨true, .terse, .empty⟩

end Settings

end CallDiagnosis

------------------------------------------------------------
-- Directives
------------------------------------------------------------

namespace CallDiagnosis

namespace Settings

/- The value of a directive that takes exactly one word. -/
def onlyWord
    (directive : Directive) :
    List String → Except DirectiveFault String
| [word] => .ok word
| _ => .error (.wrongCount directive)

/- The state of a switch that a word has to mean. -/
def switchOf
    (directive : Directive)
    (word : String) :
    Except DirectiveFault Bool :=
  match switchOfWord? word with
  | some state => .ok state
  | none => .error (.expectedBoolean directive)

/- The verbosity that a word has to mean. -/
def verbosityOf
    (word : String) :
    Except DirectiveFault Verbosity :=
  match Verbosity.ofWord? word with
  | some verbosity => .ok verbosity
  | none => .error (.unknownVerbosity word)

/- Add the switches with the given names to a set. -/
def addOptions
    (options : OptionSet) :
    List String → Except DirectiveFault OptionSet
| [] => .ok options
| word :: rest =>
    match OptionSet.ofName? word with
    | some option => addOptions (options.union option) rest
    | none => .error (.unknownOption word)

/- The settings after a directive with its arguments. -/
def set
    (s : Settings)
    (arguments : List String) :
    Directive → Except DirectiveFault Settings
| .engine => do
    let word ← onlyWord .engine arguments
    let state ← switchOf .engine word
    return { s with engine := state }
| .options => do
    if arguments = [] then
      throw (.wrongCount .options)
    else
      let options ← addOptions s.options arguments
      return { s with options := options }
| .verbosity => do
    let word ← onlyWord .verbosity arguments
    let verbosity ← verbosityOf word
    return { s with verbosity := verbosity }

/- The settings after a directive written by a host. -/
def change?
    (s : Settings)
    (name : String)
    (arguments : List String) :
    Except DirectiveFault Settings :=
  match Directive.ofName? name with
  | some directive => s.set arguments directive
  | none => .error (.unknownDirective name)

/- Carry out a directive and note that it was accepted. -/
def directive
    {V : Vocabulary}
    (s : Settings)
    (name : String)
    (arguments : List String) :
    Inquiry V (Except DirectiveFault Settings) := do
  match s.change? name arguments with
  | .error fault => return .error fault
  | .ok after =>
      let words := " ".intercalate arguments
      Inquiry.log .debug s!"applied {name} {words}"
      return .ok after

end Settings

end CallDiagnosis

------------------------------------------------------------
-- Settings from a Host
------------------------------------------------------------

namespace CallDiagnosis

namespace Settings

/- The flag by which a host keeps the engine off. -/
def engineOff : UInt32 :=
  1

/-
  The settings that a host asks for by numbers.  A number
  that is not a verbosity is noted and otherwise ignored.
-/
def ofHost
    {V : Vocabulary}
    (flags : UInt32)
    (verbosity : Int32) :
    Inquiry V Settings := do
  let engine := flags &&& engineOff = 0
  let s := { standard with engine := engine }
  match Verbosity.ofNumber? verbosity.toInt with
  | some v => return { s with verbosity := v }
  | none =>
      Inquiry.log .debug
        s!"ignoring unknown verbosity {verbosity.toInt}"
      return s

end Settings

end CallDiagnosis
