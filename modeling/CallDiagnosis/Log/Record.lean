/-
  Log records.

  Key definitions include:
    * `CallDiagnosis.Log.Severity`
    * `CallDiagnosis.Log.Level`
    * `CallDiagnosis.Log.Record`

  A record has one of five severities.  A level is the line
  up to which records are let through: none at all, or those
  up to one of the severities.

  A client is also shown at which place of the program's text,
  by file and line, a record was made.  This place is left out
  of a record here.  It changes whenever the text is laid out
  anew, and nothing is decided by it: neither which records
  are let through, nor to whom, nor what else they say.
-/

------------------------------------------------------------
-- Severities and Levels
------------------------------------------------------------

namespace CallDiagnosis

namespace Log

/- How grave a record is, the gravest first. -/
inductive Severity where
| error
| warn
| info
| debug
| trace
deriving DecidableEq

/- How much is let through. -/
inductive Level where
| off
| upTo (severity : Severity)
deriving DecidableEq

namespace Severity

/- The place of a severity, counted from one. -/
def rank :
    Severity → Nat
| .error => 1
| .warn => 2
| .info => 3
| .debug => 4
| .trace => 5

/- The word for a severity. -/
def label :
    Severity → String
| .error => "ERROR"
| .warn => "WARN"
| .info => "INFO"
| .debug => "DEBUG"
| .trace => "TRACE"

end Severity

namespace Level

/- The number of a level, zero when nothing is let through. -/
def rank :
    Level → Nat
| .off => 0
| .upTo severity => severity.rank

/- The word for a level. -/
def label :
    Level → String
| .off => "Off"
| .upTo .error => "Error"
| .upTo .warn => "Warn"
| .upTo .info => "Info"
| .upTo .debug => "Debug"
| .upTo .trace => "Trace"

/- The level with a number, if there is one. -/
def ofNumber? :
    Int → Option Level
| 0 => some .off
| 1 => some (.upTo .error)
| 2 => some (.upTo .warn)
| 3 => some (.upTo .info)
| 4 => some (.upTo .debug)
| 5 => some (.upTo .trace)
| _ => none

/- A level lets a severity through. -/
def Admits
    (level : Level)
    (severity : Severity) :
    Prop :=
  severity.rank ≤ level.rank

instance
    (level : Level)
    (severity : Severity) :
    Decidable (level.Admits severity) :=
  inferInstanceAs (Decidable (severity.rank ≤ level.rank))

end Level

end Log

end CallDiagnosis

------------------------------------------------------------
-- Records
------------------------------------------------------------

namespace CallDiagnosis

namespace Log

/- One message, with its severity and the part it is about. -/
structure Record where
  severity : Severity
  target : String
  message : String
deriving DecidableEq

/- The part that all records of the library are about. -/
def target : String :=
  "explain"

end Log

end CallDiagnosis
