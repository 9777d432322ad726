/-
  The system calls that the library knows.

  Key definitions include:
    * `CallDiagnosis.SystemCall`
    * `CallDiagnosis.SystemCall.all`
    * `CallDiagnosis.SystemCall.number`

  The calls have a fixed order.  The number of a call is its
  place in that order.
-/

------------------------------------------------------------
-- System Calls
------------------------------------------------------------

namespace CallDiagnosis

/- A system call. -/
inductive SystemCall where
| chmod
| chown
| chroot
| close
| fchmod
| fchown
| lchown
| lstat
| mkdir
| openFile
| read
| rename
| rmdir
| stat
| unlink
| write
deriving DecidableEq

namespace SystemCall

/- The calls in their order. -/
def all : Vector SystemCall 16 :=
  #v[
    .chmod, .chown, .chroot, .close,
    .fchmod, .fchown, .lchown, .lstat,
    .mkdir, .openFile, .read, .rename,
    .rmdir, .stat, .unlink, .write
  ]

/- The place of a call in the order. -/
def number :
    SystemCall → Fin 16
| .chmod => 0
| .chown => 1
| .chroot => 2
| .close => 3
| .fchmod => 4
| .fchown => 5
| .lchown => 6
| .lstat => 7
| .mkdir => 8
| .openFile => 9
| .read => 10
| .rename => 11
| .rmdir => 12
| .stat => 13
| .unlink => 14
| .write => 15

/- A call stands at its own place in the order. -/
theorem all_number
    (c : SystemCall) :
    all[c.number] = c := by
  cases c <;> rfl

/- The name of a call, with its section of the manual. -/
def name :
    SystemCall → String
| .chmod => "chmod(2)"
| .chown => "chown(2)"
| .chroot => "chroot(2)"
| .close => "close(2)"
| .fchmod => "fchmod(2)"
| .fchown => "fchown(2)"
| .lchown => "lchown(2)"
| .lstat => "lstat(2)"
| .mkdir => "mkdir(2)"
| .openFile => "open(2)"
| .read => "read(2)"
| .rename => "rename(2)"
| .rmdir => "rmdir(2)"
| .stat => "stat(2)"
| .unlink => "unlink(2)"
| .write => "write(2)"

/- The call with a name, if there is one. -/
def ofName?
    (s : String) :
    Option SystemCall :=
  all.toList.find? (fun c => c.name = s)

end SystemCall

end CallDiagnosis
