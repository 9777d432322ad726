import CallDiagnosis.Consult
import CallDiagnosis.Errno.Sentences
import CallDiagnosis.Path.Ancestors

/-
  The questions of the library put to a kernel.

  Key definitions include:
    * `CallDiagnosis.Kernel.Question`
    * `CallDiagnosis.Kernel.pathLimit`
    * `CallDiagnosis.Kernel.restate`
    * `CallDiagnosis.Kernel.live`

  A kernel takes paths without a null character and answers
  about one place at a time.  A limit is asked for at the
  path and then at the directories above it, since a file
  that is missing would still lie on the filesystem of the
  directory that contains it.
-/

------------------------------------------------------------
-- Questions to a Kernel
------------------------------------------------------------

namespace CallDiagnosis

namespace Kernel

/- A question to a kernel. -/
inductive Question where
| lstat (path : String)
| pathconf (path : String) (limit : PathLimit)
| sysconf (limit : SystemLimit)
| effectiveUid
| signal (check : SignalCheck)
deriving DecidableEq

namespace Question

/-
  The type of the answers to a question.  A limit of a path
  that is not set is refused without an error number, and a
  limit of the process that is not set is negative.
-/
abbrev Answer :
    Question → Type
| .lstat _ => Except Errno FileStatus
| .pathconf _ _ => Except Errno Int64
| .sysconf _ => Int64
| .effectiveUid => UInt32
| .signal _ => Unit

end Question

/- The questions to a kernel with their answers. -/
abbrev system : Vocabulary :=
  ⟨Question, Question.Answer⟩

/- An inquiry in the questions to a kernel. -/
abbrev Ask
    (α : Type) :
    Type :=
  Inquiry system α

/- A path can be passed to a kernel. -/
def Passable
    (path : String) :
    Prop :=
  '\x00' ∉ path.toList

instance
    (path : String) :
    Decidable (Passable path) :=
  inferInstanceAs (Decidable ('\x00' ∉ path.toList))

end Kernel

end CallDiagnosis

------------------------------------------------------------
-- Looks
------------------------------------------------------------

namespace CallDiagnosis

namespace Kernel

/- The bits of a mode that say something about permissions. -/
def permissionBits : UInt32 :=
  0o7777

/- A status with only those bits of its mode. -/
def masked
    (status : FileStatus) :
    FileStatus :=
  { status with mode := status.mode &&& permissionBits }

/- Look at a file without following a link at the end. -/
def probe
    (path : String) :
    Ask (Except Errno FileStatus) :=
  if Passable path then
    .ask (.lstat path) (fun answer =>
      .done (answer.map masked))
  else
    return .error .einval

end Kernel

end CallDiagnosis

------------------------------------------------------------
-- Limits
------------------------------------------------------------

namespace CallDiagnosis

namespace Kernel

/- The errors after which a limit is asked for further up. -/
def climbing : List Errno :=
  [.enoent, .enametoolong, .enotdir, .eacces, .eloop]

/- Ask for a limit at one place after the other. -/
def search
    (limit : PathLimit) :
    List String → Ask (Except Fault Int64)
| [] => return .error (.unsupported (.ofPath limit))
| place :: rest =>
    .ask (.pathconf place limit) (fun answer =>
      match answer with
      | .ok value => return .ok value
      | .error e => do
          let query := s!"pathconf({place}, {limit.name})"
          if e = .success then
            Inquiry.log .trace s!"{query} has no limit"
            return .error (.unsupported (.ofPath limit))
          else
            Inquiry.log .trace
              s!"{query} failed: {e.systemText}"
            if e ∈ climbing then
              search limit rest
            else
              return .error (.unsupported (.ofPath limit)))

/- Ask for a limit at a path and at the directories above it. -/
def pathLimit
    (limit : PathLimit)
    (path : String) :
    Ask (Except Fault Int64) :=
  if Passable path then
    search limit (Path.candidates path)
  else
    return .error (.invalidArgument .path)

/- Ask for a limit of the process. -/
def systemLimit
    (limit : SystemLimit) :
    Ask (Except Fault Int64) :=
  .ask (.sysconf limit) (fun value =>
    if value < 0 then
      return .error (.unsupported (.ofSystem limit))
    else
      return .ok value)

end Kernel

end CallDiagnosis

------------------------------------------------------------
-- Restatement
------------------------------------------------------------

namespace CallDiagnosis

namespace Kernel

/- Put one question of the library to a kernel. -/
def restate :
    (question : CallDiagnosis.Question) →
      Ask (CallDiagnosis.Question.Answer question)
| .probe path => probe path
| .effectiveUid => .ask .effectiveUid .done
| .pathLimit limit path => pathLimit limit path
| .systemLimit limit => systemLimit limit
| .signal check => .ask (.signal check) .done

/- Put all questions of an inquiry to a kernel. -/
def live
    {α : Type}
    (x : Consult α) :
    Ask α :=
  x.rephrase restate

end Kernel

end CallDiagnosis
