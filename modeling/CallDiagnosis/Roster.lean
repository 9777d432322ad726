import CallDiagnosis.Fault

/-
  Who has explanations installed under which name.

  Key definitions include:
    * `CallDiagnosis.Owner`
    * `CallDiagnosis.Registrar`
    * `CallDiagnosis.Roster`

  A host keeps a registry of those who explain failed calls.
  A name stands for at most one of them at a time, and a name
  that is taken stays with its holder until it is given up.
  A roster is a registry for hosts without one of their own;
  it can also be told to refuse everybody.
-/

------------------------------------------------------------
-- Registries
------------------------------------------------------------

namespace CallDiagnosis

/- Who installed explanations: the session, or someone else. -/
inductive Owner where
| session
| guest
deriving DecidableEq

/-
  Registries of those who explain.  Either request says
  whether it was granted.
-/
class Registrar
    (R : Type) where
  register :
    R → Owner → String → Except RegistryFault Unit × R
  unregister :
    R → String → Except RegistryFault Unit × R

end CallDiagnosis

------------------------------------------------------------
-- Rosters
------------------------------------------------------------

namespace CallDiagnosis

/-
  The names that are taken, each with its holder, and the
  reason for refusing everybody, if everybody is refused.
-/
structure Roster where
  entries : List (String × Owner)
  refusal : Option String
deriving DecidableEq

namespace Roster

/- A roster with no name taken. -/
def empty : Roster :=
  ⟨[], none⟩

/- A roster that refuses everybody for one reason. -/
def refusing
    (reason : String) :
    Roster :=
  ⟨[], some reason⟩

/- The holder of a name. -/
def holder?
    (r : Roster)
    (name : String) :
    Option Owner :=
  r.entries.lookup name

/- The reason for which a name is refused, if it is refused. -/
def refusal?
    (r : Roster)
    (name : String) :
    Option String :=
  match r.refusal with
  | some reason => some reason
  | none =>
      if (r.holder? name).isSome then
        some "already registered"
      else
        none

/- Take a name. -/
def register
    (r : Roster)
    (owner : Owner)
    (name : String) :
    Except RegistryFault Unit × Roster :=
  match r.refusal? name with
  | some reason => (.error (.rejected name reason), r)
  | none =>
      (.ok (), { r with entries := (name, owner) :: r.entries })

/- Give up a name. -/
def unregister
    (r : Roster)
    (name : String) :
    Except RegistryFault Unit × Roster :=
  if (r.holder? name).isSome then
    let kept := r.entries.filter (fun entry => entry.1 ≠ name)
    (.ok (), { r with entries := kept })
  else
    (.error (.notRegistered name), r)

end Roster

instance : Registrar Roster where
  register := Roster.register
  unregister := Roster.unregister

end CallDiagnosis
