import CallDiagnosis.Call.Name

/-
  Failed calls with their arguments.

  Key definitions include:
    * `CallDiagnosis.Call`
    * `CallDiagnosis.Call.systemCall`

  Arguments keep the width they have in the call itself.
-/

------------------------------------------------------------
-- Calls with Arguments
------------------------------------------------------------

namespace CallDiagnosis

/- A system call together with its arguments. -/
inductive Call where
| chmod (path : String) (mode : UInt32)
| chown (path : String) (uid gid : UInt32)
| chroot (path : String)
| close (fd : Int32)
| fchmod (fd : Int32) (mode : UInt32)
| fchown (fd : Int32) (uid gid : UInt32)
| lchown (path : String) (uid gid : UInt32)
| lstat (path : String)
| mkdir (path : String) (mode : UInt32)
| openFile (path : String) (flags : Int32) (mode : UInt32)
| read (fd : Int32) (length : UInt64)
| rename (source target : String)
| rmdir (path : String)
| stat (path : String)
| unlink (path : String)
| write (fd : Int32) (length : UInt64)
deriving DecidableEq

namespace Call

/- Which system call it is. -/
def systemCall :
    Call → SystemCall
| .chmod .. => .chmod
| .chown .. => .chown
| .chroot .. => .chroot
| .close .. => .close
| .fchmod .. => .fchmod
| .fchown .. => .fchown
| .lchown .. => .lchown
| .lstat .. => .lstat
| .mkdir .. => .mkdir
| .openFile .. => .openFile
| .read .. => .read
| .rename .. => .rename
| .rmdir .. => .rmdir
| .stat .. => .stat
| .unlink .. => .unlink
| .write .. => .write

end Call

end CallDiagnosis
