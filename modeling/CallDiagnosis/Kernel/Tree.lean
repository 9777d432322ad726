import CallDiagnosis.Inquiry.Run
import CallDiagnosis.Kernel.Basic
import CallDiagnosis.Path.Components

/-
  A kernel with a small tree of files.

  Key definitions include:
    * `CallDiagnosis.Kernel.Tree`
    * `CallDiagnosis.Kernel.Tree.find`
    * `CallDiagnosis.Kernel.Tree.host`

  The tree lists the files that there are; all others are
  missing.  Every link in it leads to an empty directory.  A
  path is followed from the root, which is also the working
  directory of the process.
-/

------------------------------------------------------------
-- Trees
------------------------------------------------------------

namespace CallDiagnosis

namespace Kernel

/-
  The files below the root, each by the names on the way to
  it, the last name first.
-/
structure Tree where
  files : List (List String × FileKind)

namespace Tree

/- The files that every machine has, as far as they matter. -/
def standard : Tree :=
  ⟨[
    (["proc"], .directory),
    (["self", "proc"], .symlink),
    (["version", "proc"], .regular),
    (["dev"], .directory),
    (["null", "dev"], .other)
  ]⟩

/- The longest name, in bytes. -/
def longestName : Nat :=
  255

/- The length at which a path becomes too long, in bytes. -/
def pathTooLong : Nat :=
  4096

end Tree

end Kernel

end CallDiagnosis

------------------------------------------------------------
-- Lookup
------------------------------------------------------------

namespace CallDiagnosis

namespace Kernel

namespace Tree

/-
  A place in the tree that a path has led to: the names on the
  way, the last one first, and what is there.
-/
structure Place where
  trail : List String
  kind : FileKind
deriving DecidableEq

/- The root. -/
def root : Place :=
  ⟨[], .directory⟩

/- Go on through a place, if it leads on at all. -/
def through
    (place : Place) :
    Except Errno (List String) :=
  if place.kind = .directory ∨ place.kind = .symlink then
    .ok place.trail
  else
    .error .enotdir

/- Go from a directory to what a name stands for in it. -/
def enter
    (t : Tree)
    (trail : List String)
    (name : String) :
    Except Errno Place :=
  if name = "." then
    .ok ⟨trail, .directory⟩
  else if name = ".." then
    .ok ⟨trail.tail, .directory⟩
  else if longestName < name.utf8ByteSize then
    .error .enametoolong
  else
    match t.files.lookup (name :: trail) with
    | some kind => .ok ⟨name :: trail, kind⟩
    | none => .error .enoent

/- Follow names from a place. -/
def follow
    (t : Tree)
    (place : Place) :
    List String → Except Errno Place
| [] => .ok place
| name :: rest => do
    let trail ← through place
    let next ← t.enter trail name
    t.follow next rest

/-
  Find what a path stands for, without following a link at
  the end.  A slash at the end demands a directory.
-/
def find
    (t : Tree)
    (path : String) :
    Except Errno Place :=
  if path = "" then
    .error .enoent
  else if pathTooLong ≤ path.utf8ByteSize then
    .error .enametoolong
  else if Path.EndsInSlash path then
    t.follow root (Path.names path ++ ["."])
  else
    t.follow root (Path.names path)

end Tree

end Kernel

end CallDiagnosis

------------------------------------------------------------
-- Answers
------------------------------------------------------------

namespace CallDiagnosis

namespace Kernel

namespace Tree

/- What a look at a place shows.  The superuser owns it. -/
def status
    (place : Place) :
    FileStatus :=
  ⟨place.kind, 0o755, 0, 0⟩

/-
  A limit at a path.  Only the length of names depends on the
  filesystem that the path lies on.
-/
def limit
    (t : Tree)
    (path : String) :
    PathLimit → Except Errno Int64
| .nameMax => (t.find path).map (fun _ => 255)
| .pathMax => .ok 4096
| .noTrunc => .ok 1

/- A limit of the process. -/
def systemLimit :
    SystemLimit → Int64
| .iovMax => 1024
| .openMax => -1
| .childMax => -1

/- The answer to a question. -/
def answer
    (t : Tree) :
    (question : Question) → Question.Answer question
| .lstat path => (t.find path).map status
| .pathconf path l => t.limit path l
| .sysconf l => systemLimit l
| .effectiveUid => 0
| .signal _ => ()

/- A tree that answers the questions to a kernel. -/
def host
    (t : Tree) :
    Host system Unit :=
  ⟨fun question state => (t.answer question, state)⟩

end Tree

end Kernel

end CallDiagnosis
