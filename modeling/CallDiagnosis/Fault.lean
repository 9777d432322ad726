import CallDiagnosis.Call.Name
import CallDiagnosis.Limit.Name
import CallDiagnosis.Settings.Directive

/-
  Why a request is not answered.

  Key definitions include:
    * `CallDiagnosis.DirectiveFault`
    * `CallDiagnosis.RegistryFault`
    * `CallDiagnosis.Fault`
    * `CallDiagnosis.Status`

  A fault is a cause; its message and the status that a host
  sees are read off the cause, in one place each.
-/

------------------------------------------------------------
-- Faults of Directives
------------------------------------------------------------

namespace CallDiagnosis

/- Why a directive is refused. -/
inductive DirectiveFault where
| unknownDirective (name : String)
| wrongCount (directive : Directive)
| expectedBoolean (directive : Directive)
| unknownOption (name : String)
| unknownVerbosity (word : String)
deriving DecidableEq

namespace DirectiveFault

/- The message for a refused directive. -/
def message :
    DirectiveFault → String
| .unknownDirective name =>
    s!"unknown directive '{name}'"
| .wrongCount directive =>
    s!"{directive.name}: wrong number of parameters"
| .expectedBoolean directive =>
    s!"{directive.name}: expected Boolean parameter"
| .unknownOption name =>
    s!"ExplainOptions: unknown ExplainOption '{name}'"
| .unknownVerbosity word =>
    s!"ExplainVerbosity: unknown verbosity '{word}'"

end DirectiveFault

end CallDiagnosis

------------------------------------------------------------
-- Faults of Registries
------------------------------------------------------------

namespace CallDiagnosis

/- Why a registry refuses a request about a name. -/
inductive RegistryFault where
| rejected (name reason : String)
| notRegistered (name : String)
deriving DecidableEq

namespace RegistryFault

/- The message for a refused request. -/
def message :
    RegistryFault → String
| .rejected name reason =>
    s!"error registering explanations for '{name}': {reason}"
| .notRegistered name =>
    s!"no explanations registered for '{name}'"

end RegistryFault

end CallDiagnosis

------------------------------------------------------------
-- Faults
------------------------------------------------------------

namespace CallDiagnosis

/- An argument of a request. -/
inductive Argument where
| path
| systemCall
| arguments
deriving DecidableEq

namespace Argument

/- The word for an argument. -/
def label :
    Argument → String
| .path => "path"
| .systemCall => "syscall"
| .arguments => "args"

end Argument

/- Why a request is not answered. -/
inductive Fault where
| invalidArgument (argument : Argument)
| unsupported (limit : Limit)
| notImplemented (call : SystemCall)
| disabled
| ofDirective (fault : DirectiveFault)
| ofRegistry (fault : RegistryFault)
deriving DecidableEq

namespace Fault

/- The message for a request that is not answered. -/
def message :
    Fault → String
| .invalidArgument argument =>
    s!"invalid argument: {argument.label}"
| .unsupported limit =>
    s!"{limit.name} is not supported on this platform"
| .notImplemented call =>
    s!"explaining {call.name} errors is not implemented"
| .disabled =>
    "error explanations are disabled for this session"
| .ofDirective fault => fault.message
| .ofRegistry fault => fault.message

end Fault

end CallDiagnosis

------------------------------------------------------------
-- Statuses
------------------------------------------------------------

namespace CallDiagnosis

/- The outcome of a request as a host sees it. -/
inductive Status where
| ok
| noExplanation
| notAnError
| invalidArgument
| unsupported
| notImplemented
| disabled
| ioError
deriving DecidableEq

namespace Status

/- The number of a status. -/
def number :
    Status → Nat
| .ok => 0
| .noExplanation => 1
| .notAnError => 2
| .invalidArgument => 3
| .unsupported => 4
| .notImplemented => 5
| .disabled => 6
| .ioError => 7

end Status

namespace Fault

/- The status that a host sees for a fault. -/
def status :
    Fault → Status
| .invalidArgument _ => .invalidArgument
| .unsupported _ => .unsupported
| .notImplemented _ => .notImplemented
| .disabled => .disabled
| .ofDirective _ => .invalidArgument
| .ofRegistry _ => .ioError

end Fault

end CallDiagnosis
