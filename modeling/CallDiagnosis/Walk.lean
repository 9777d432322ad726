import CallDiagnosis.Diagnosis.Cause
import CallDiagnosis.File.Intent
import CallDiagnosis.Limit.Cache
import CallDiagnosis.Path.Components

/-
  Walking down a path to find out why it failed.

  Key definitions include:
    * `CallDiagnosis.Context`
    * `CallDiagnosis.Walk.inspect`
    * `CallDiagnosis.walk`

  The walk looks at every step of the failing path again and
  reports the first one that accounts for the error.  The
  files may have changed since the call failed, so a walk is
  a best effort: when no step accounts for the error it says
  nothing and does not guess.
-/

------------------------------------------------------------
-- Context
------------------------------------------------------------

namespace CallDiagnosis

/-
  What a session lends to an explanation: its limits, its
  view of paths and its check for pending signals.
-/
structure Context where
  limits : LimitCache
  resolve : String → String
  signals : SignalCheck

end CallDiagnosis

------------------------------------------------------------
-- Blame
------------------------------------------------------------

namespace CallDiagnosis

namespace Walk

/- The directory that contains a step; the root has none. -/
def parentOrRoot
    (parent : String) :
    String :=
  if parent = "" then "/" else parent

/-
  What the caller wanted to do to a leaf that exists.  It did
  not want to create it, since it is there already.
-/
def attempt
    (intent : Intent) :
    Attempt :=
  if intent.Contains .wantUnlink then
    .delete
  else if intent.Meets (.wantWrite ||| .wantModify) then
    .writeTo
  else if intent.Contains .wantRead then
    .read
  else
    .search

/- Blame for a step that cannot be looked at. -/
def stepFailure
    (step : Path.Step)
    (e : Errno)
    (missing denied : Diagnosis) :
    Option Diagnosis :=
  if e = .enoent then
    some missing
  else if e = .eacces then
    some denied
  else if e = .enotdir then
    some (.notDirectory (parentOrRoot step.parent))
  else if e = .eloop then
    some (.tooManyLinks step.path)
  else if e = .enametoolong then
    some (.unresolvable step.path)
  else
    none

/- Blame for a step on the way that cannot be looked at. -/
def innerFailure
    (step : Path.Step)
    (e : Errno) :
    Option Diagnosis :=
  stepFailure step e
    (.missingDirectory step.path)
    (.notSearchable (parentOrRoot step.parent))

/- Blame for a last step that cannot be looked at. -/
def leafFailure
    (step : Path.Step)
    (e : Errno)
    (intent : Intent)
    (expected : ExpectedKind) :
    Option Diagnosis :=
  let parent := parentOrRoot step.parent
  stepFailure step e
    (.missingLeaf expected step.path)
    (if intent.Contains .wantSearch then
      .notSearchable parent
    else
      .notWritable parent)

/-
  Blame for a last step that is there although the call was
  refused.  The directory that contains it is looked at once
  more, because its mode and owner go into the report.
-/
def leafRefused
    (step : Path.Step)
    (status : FileStatus)
    (intent : Intent)
    (expected : ExpectedKind) :
    Consult Diagnosis := do
  let subject :=
    if status.kind = .directory then
      .directory
    else
      expected
  let verdict :=
    Diagnosis.refused (attempt intent) subject step.path
  if step.parent = "" then
    return verdict none
  else
    match ← Consult.probe step.parent with
    | .ok container =>
        return verdict (some ⟨step.parent, container⟩)
    | .error e =>
        Inquiry.log .trace
          (s!"re-probe of parent '{step.parent}' failed " ++
            s!"with errno {e.code.toInt}")
        return verdict none

/-
  Blame for a last step that is there and was not refused.
  What a link points at was not looked at, so for a link only
  a missing target can be told.
-/
def leafFound
    (e : Errno)
    (step : Path.Step)
    (status : FileStatus)
    (intent : Intent)
    (expected : ExpectedKind) :
    Option Diagnosis :=
  if status.kind = .symlink then
    if e = .enoent ∧ expected.FollowsLinks then
      some (.danglingLink step.path)
    else
      none
  else if
      (intent.Contains .mustHaveKind ∨ e = .enotdir) ∧
        ¬ status.kind.Satisfies expected then
    if expected = .directory then
      some (.notDirectory step.path)
    else
      some (.wrongKind step.path status.kind expected)
  else
    none

/- Blame for a last step that can be looked at. -/
def leafSuccess
    (e : Errno)
    (step : Path.Step)
    (status : FileStatus)
    (intent : Intent)
    (expected : ExpectedKind) :
    Consult (Option Diagnosis) := do
  if e = .eacces then
    return some (← leafRefused step status intent expected)
  else
    return leafFound e step status intent expected

end Walk

end CallDiagnosis

------------------------------------------------------------
-- Inspection of the Steps
------------------------------------------------------------

namespace CallDiagnosis

namespace Walk

/- The limit that a component breaks, if there is one. -/
def brokenLimit?
    (limit : Option UInt64)
    (component : String) :
    Option UInt64 :=
  limit.filter (fun l => l.toNat < component.utf8ByteSize)

/-
  Look at each step in turn, with pending signals serviced
  before every look, and stop at the first step that decides
  the matter.
-/
def inspect
    (signals : SignalCheck)
    (limit : Option UInt64)
    (e : Errno)
    (intent : Intent)
    (expected : ExpectedKind) :
    List Path.Step → Consult (Option Diagnosis)
| [] => return none
| step :: rest => do
    Consult.signal signals
    match brokenLimit? limit step.component with
    | some l => return some (.nameTooLong step.component l)
    | none =>
      match ← Consult.probe step.path with
      | .error reason =>
          Inquiry.log .trace
            (s!"probe of '{step.path}' failed " ++
              s!"with errno {reason.code.toInt}")
          if rest.isEmpty then
            return leafFailure step reason intent expected
          else
            return innerFailure step reason
      | .ok status =>
          if rest.isEmpty then
            leafSuccess e step status intent expected
          else if status.Traversable then
            inspect signals limit e intent expected rest
          else
            return some (.notDirectory step.path)

end Walk

end CallDiagnosis

------------------------------------------------------------
-- Walks
------------------------------------------------------------

namespace CallDiagnosis

namespace Walk

/-
  A path can be too long as a whole.  This is a matter of its
  text as the caller wrote it.
-/
def wholePath
    (c : Context)
    (e : Errno)
    (path : String) :
    Consult (Option Diagnosis) := do
  if e = .enametoolong then
    match ← c.limits.pathMax path with
    | .ok limit =>
        if limit.toNat < path.utf8ByteSize then
          return some (.pathTooLong path limit)
        else
          return none
    | .error _ => return none
  else
    return none

/-
  The limit that holds for single names.  Where long names
  are cut short, none of them is too long.
-/
def nameLimit
    (c : Context)
    (e : Errno)
    (path : String) :
    Consult (Option UInt64) := do
  if e = .enametoolong then
    let limit ← c.limits.nameMax path
    let refused ← c.limits.noTruncation path
    match limit, refused with
    | .ok l, .ok true => return some l
    | _, _ => return none
  else
    return none

/- Walk down the steps of a path as the session sees it. -/
def descend
    (c : Context)
    (e : Errno)
    (path : String)
    (intent : Intent)
    (expected : ExpectedKind) :
    Consult (Option Diagnosis) := do
  let resolved := c.resolve path
  let steps := Path.steps resolved
  Inquiry.log .trace
    (s!"walking '{resolved}' ({steps.length} components) " ++
      s!"for errno {e.code.toInt}")
  let limit ← nameLimit c e path
  inspect c.signals limit e intent expected steps

end Walk

/-
  Find out why resolving a path failed.  No diagnosis means
  that no step accounts for the error.
-/
def walk
    (c : Context)
    (e : Errno)
    (path : String)
    (intent : Intent)
    (expected : ExpectedKind) :
    Consult (Except Fault (Option Diagnosis)) := do
  if path = "" then
    return .error (.invalidArgument .path)
  else
    match ← Walk.wholePath c e path with
    | some diagnosis => return .ok (some diagnosis)
    | none =>
        let found ← Walk.descend c e path intent expected
        return .ok found

end CallDiagnosis
