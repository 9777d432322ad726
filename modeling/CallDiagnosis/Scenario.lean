import CallDiagnosis.Consult
import CallDiagnosis.Inquiry.Run
import CallDiagnosis.Viewpoint

/-
  Hosts that answer from a script.

  Key definitions include:
    * `CallDiagnosis.Scenario`
    * `CallDiagnosis.Scenario.host`
    * `CallDiagnosis.ScriptedView`

  A scenario says in advance what every look will show and
  which limits will be reported.  A file may show something
  else at each look, as it may while others change it.
-/

------------------------------------------------------------
-- Scripts
------------------------------------------------------------

namespace CallDiagnosis

/- The limits that are reported. -/
structure LimitScript where
  nameMax : Option Int64
  pathMax : Option Int64
  noTrunc : Option Int64
  openMax : Option Int64
  childMax : Option Int64
  iovMax : Option Int64
  places : List (String × PathLimit × Option Int64)
deriving DecidableEq

/-
  What will be seen.  Each file shows one status or error
  after the other, and the last one forever.
-/
structure Scenario where
  files : List (String × List (Except Errno FileStatus))
  effectiveUid : UInt32
  limits : LimitScript

end CallDiagnosis

------------------------------------------------------------
-- Answers
------------------------------------------------------------

namespace CallDiagnosis

namespace LimitScript

/- The limits of a plain system. -/
def standard : LimitScript :=
  ⟨some 255, some 4096, some 1, none, none, none, []⟩

/- What is reported for a limit wherever nothing else is. -/
def everywhere
    (s : LimitScript) :
    PathLimit → Option Int64
| .nameMax => s.nameMax
| .pathMax => s.pathMax
| .noTrunc => s.noTrunc

/- What is reported for a limit at a path. -/
def pathLimit
    (s : LimitScript)
    (limit : PathLimit)
    (path : String) :
    Option Int64 :=
  match s.places.find? (fun p => p.1 = path ∧ p.2.1 = limit)
  with
  | some place => place.2.2
  | none => s.everywhere limit

/- What is reported for a limit of the process. -/
def systemLimit
    (s : LimitScript) :
    SystemLimit → Option Int64
| .openMax => s.openMax
| .childMax => s.childMax
| .iovMax => s.iovMax

end LimitScript

namespace Scenario

/- A limit that is not reported is not supported. -/
def report
    (limit : Limit) :
    Option Int64 → Except Fault Int64
| some value => .ok value
| none => .error (.unsupported limit)

/- The script of a file with its first line crossed out. -/
def advance :
    List (Except Errno FileStatus) →
      List (Except Errno FileStatus)
| [] => []
| [last] => [last]
| _ :: rest => rest

/- The scripts after a look at one of the files. -/
def afterLook
    (path : String)
    (files : List (String × List (Except Errno FileStatus))) :
    List (String × List (Except Errno FileStatus)) :=
  files.map (fun file =>
    if file.1 = path then (file.1, advance file.2) else file)

/- What a look at a file shows now. -/
def look
    (s : Scenario)
    (path : String) :
    Except Errno FileStatus :=
  match s.files.lookup path with
  | some (shown :: _) => shown
  | _ => .error .enoent

/- Put the script of a file in place of an earlier one. -/
def withFile
    (s : Scenario)
    (path : String)
    (shown : List (Except Errno FileStatus)) :
    Scenario :=
  let others := s.files.filter (fun file => file.1 ≠ path)
  { s with files := (path, shown) :: others }

/- The answer to a question, and what will be seen after it. -/
def answer :
    (question : Question) → Scenario →
      Question.Answer question × Scenario
| .probe path, s =>
    (s.look path, { s with files := afterLook path s.files })
| .effectiveUid, s => (s.effectiveUid, s)
| .pathLimit limit path, s =>
    (report (.ofPath limit) (s.limits.pathLimit limit path), s)
| .systemLimit limit, s =>
    (report (.ofSystem limit) (s.limits.systemLimit limit), s)
| .signal _, s => ((), s)

/- A host that answers from a script. -/
def host : Host surroundings Scenario :=
  ⟨answer⟩

end Scenario

end CallDiagnosis

------------------------------------------------------------
-- Scripted Views
------------------------------------------------------------

namespace CallDiagnosis

/-
  A working directory from which some paths are seen where a
  script puts them.
-/
structure ScriptedView where
  directory : WorkingDirectory
  places : List (String × String)
deriving DecidableEq

namespace ScriptedView

/- Where a path is seen. -/
def resolve
    (v : ScriptedView)
    (path : String) :
    String :=
  (v.places.lookup path).getD (v.directory.resolve path)

/- The view from another directory. -/
def enter
    (v : ScriptedView)
    (path : String) :
    ScriptedView :=
  { v with directory := v.directory.enter path }

end ScriptedView

instance : Viewpoint ScriptedView where
  resolve := ScriptedView.resolve
  enter := ScriptedView.enter

end CallDiagnosis
