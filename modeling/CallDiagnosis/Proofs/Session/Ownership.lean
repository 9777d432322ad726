import CallDiagnosis.Proofs.Session.Transition
import CallDiagnosis.Scenario

/-
  Who owns what a registry holds under the session's name.

  Key definitions include:
    * `CallDiagnosis.Session.Owned`
    * `CallDiagnosis.Session.Spares`
    * `CallDiagnosis.Session.Respected`

  Key theorems include:
    * `CallDiagnosis.Session.owned_next`
    * `CallDiagnosis.Session.session_owns_registration`

  A session notes that its explanations are installed, and the
  registry notes it a second time, while guests use the same
  registry.  As long as no guest gives up the name of a session
  that holds it, both notes say the same after any history,
  and the session never touches what belongs to a guest.
-/

------------------------------------------------------------
-- Rosters
------------------------------------------------------------

namespace CallDiagnosis

namespace Roster

/- Names other than the one taken out keep their holders. -/
theorem lookup_filter_ne
    (entries : List (String × Owner))
    (given other : String) :
    (entries.filter (fun entry => entry.1 ≠ given)).lookup
        other =
      if other = given then none else entries.lookup other := by
  induction entries with
  | nil => simp
  | cons entry entries ih =>
      rcases entry with ⟨taken, owner⟩
      by_cases hTaken : taken = given
      · have hDropped :
            ((taken, owner) :: entries).filter
                (fun entry => entry.1 ≠ given) =
              entries.filter (fun entry => entry.1 ≠ given) :=
          by simp [hTaken]
        rw [hDropped, ih, List.lookup_cons, hTaken]
        by_cases hOther : other = given
        · simp [hOther]
        · simp [hOther, beq_false_of_ne hOther]
      · have hKept :
            ((taken, owner) :: entries).filter
                (fun entry => entry.1 ≠ given) =
              (taken, owner) ::
                entries.filter
                  (fun entry => entry.1 ≠ given) := by
          simp [hTaken]
        rw [hKept, List.lookup_cons, List.lookup_cons, ih]
        by_cases hOther : other = taken
        · simp [hOther, hTaken]
        · simp [beq_false_of_ne hOther]

/- A name that was given up has no holder. -/
theorem holder?_unregister
    (r : Roster)
    (given other : String) :
    (Registrar.unregister r given).2.holder? other =
      if other = given then none else r.holder? other := by
  change (r.unregister given).2.holder? other = _
  unfold unregister
  by_cases hHeld : (r.holder? given).isSome = true
  · simp only [hHeld, if_true]
    exact lookup_filter_ne r.entries given other
  · simp only [hHeld]
    by_cases hOther : other = given
    · simpa [hOther] using hHeld
    · simp [hOther]

/-
  A name is refused and nothing changes, or it was free and
  has a holder from now on.
-/
theorem register_cases
    (r : Roster)
    (owner : Owner)
    (taken : String) :
    (∃ fault,
      Registrar.register r owner taken = (.error fault, r)) ∨
    (r.holder? taken = none ∧
      ∃ after,
        Registrar.register r owner taken = (.ok (), after) ∧
        ∀ other,
          after.holder? other =
            if other = taken then
              some owner
            else
              r.holder? other) := by
  change (∃ fault, r.register owner taken = _) ∨
    (_ ∧ ∃ after, r.register owner taken = _ ∧ _)
  cases hRefusal : r.refusal? taken with
  | some reason =>
      refine .inl ⟨.rejected taken reason, ?_⟩
      simp [register, hRefusal]
  | none =>
      have hFree : r.holder? taken = none := by
        unfold refusal? at hRefusal
        split at hRefusal
        · cases hRefusal
        · simpa using hRefusal
      refine .inr
        ⟨hFree,
          { r with entries := (taken, owner) :: r.entries },
          ?_, ?_⟩
      · simp [register, hRefusal]
      · intro other
        simp only [holder?, List.lookup_cons]
        by_cases hOther : other = taken
        · simp [hOther]
        · simp [hOther, beq_false_of_ne hOther]

end Roster

end CallDiagnosis

------------------------------------------------------------
-- Ownership
------------------------------------------------------------

namespace CallDiagnosis

namespace Session

/-
  What a session notes about its installation is what the
  registry says, and the session holds no other name.
-/
structure Owned
    (registry : Roster)
    (registered : Bool) :
    Prop where
  noted :
    registered = true ↔ registry.holder? name = some .session
  nowhereElse :
    ∀ other,
      other ≠ name → registry.holder? other ≠ some .session

/-
  A change of a registry that spares the guests: a guest with
  the session's name keeps the session from changing anything,
  and other names keep their holders in any case.
-/
structure Spares
    (before after : Roster) :
    Prop where
  guest :
    before.holder? name = some .guest → after = before
  others :
    ∀ other,
      other ≠ name →
        after.holder? other = before.holder? other

theorem Spares.refl
    (registry : Roster) :
    Spares registry registry :=
  ⟨fun _ => rfl, fun _ _ => rfl⟩

section Guests

variable {registry : Roster}
variable {registered : Bool}

/- A guest only gets a name that the session does not hold. -/
theorem Owned.guestRegister
    (hOwned : Owned registry registered)
    (taken : String) :
    Owned (Registrar.register registry .guest taken).2
      registered := by
  rcases Roster.register_cases registry .guest taken with
    ⟨fault, hRegister⟩ | ⟨hFree, after, hRegister, hAfter⟩
  · rw [hRegister]
    exact hOwned
  · rw [hRegister]
    constructor
    · by_cases hName : name = taken
      · have hNoted := hOwned.noted
        rw [hName, hFree] at hNoted
        simpa [hAfter, hName] using hNoted
      · simpa [hAfter, hName] using hOwned.noted
    · intro other hOther
      by_cases hTaken : other = taken
      · simp [hAfter, hTaken]
      · simpa [hAfter, hTaken]
          using hOwned.nowhereElse other hOther

/- A guest may give up a name that the session does not hold. -/
theorem Owned.guestUnregister
    (hOwned : Owned registry registered)
    (given : String)
    (hRespect : given = name → registered = false) :
    Owned (Registrar.unregister registry given).2
      registered := by
  constructor
  · by_cases hName : name = given
    · have hFree : registered = false := hRespect hName.symm
      simp [Roster.holder?_unregister, hName, hFree]
    · simpa [Roster.holder?_unregister, hName]
        using hOwned.noted
  · intro other hOther
    by_cases hGiven : other = given
    · simp [Roster.holder?_unregister, hGiven]
    · simpa [Roster.holder?_unregister, hGiven]
        using hOwned.nowhereElse other hOther

end Guests

variable {V : Type}
variable {s : Session V Roster}

/- A session that starts holds nothing, and notes nothing. -/
theorem owned_start
    (settings : Settings)
    (view : V)
    (registry : Roster)
    (hGuests :
      ∀ taken, registry.holder? taken ≠ some .session) :
    Owned (start settings view registry).registry
      (start settings view registry).registered := by
  constructor
  · constructor
    · intro hNoted
      cases hNoted
    · intro hHolder
      exact absurd hHolder (hGuests name)
  · intro other hOther
    exact hGuests other

/- An installation keeps both notes alike and spares guests. -/
theorem owned_installed
    (hOwned : Owned s.registry s.registered) :
    Owned s.installed.registry s.installed.registered ∧
      Spares s.registry s.installed.registry := by
  unfold installed
  split
  · exact ⟨hOwned, .refl _⟩
  · rcases Roster.register_cases s.registry .session name with
      ⟨fault, hRegister⟩ | ⟨hFree, after, hRegister, hAfter⟩
    · rw [hRegister]
      exact ⟨hOwned, .refl _⟩
    · rw [hRegister]
      refine ⟨⟨?_, ?_⟩, ⟨?_, ?_⟩⟩
      · simp [hAfter]
      · intro other hOther
        simpa [hAfter, hOther]
          using hOwned.nowhereElse other hOther
      · intro hGuest
        rw [hFree] at hGuest
        cases hGuest
      · intro other hOther
        simp [hAfter, hOther]

/- A release keeps both notes alike and spares guests. -/
theorem owned_released
    (hOwned : Owned s.registry s.registered) :
    Owned s.released.registry s.released.registered ∧
      Spares s.registry s.released.registry := by
  unfold released
  split
  · rename_i hRegistered
    refine ⟨⟨?_, ?_⟩, ⟨?_, ?_⟩⟩
    · simp [Roster.holder?_unregister]
    · intro other hOther
      simpa [Roster.holder?_unregister, hOther]
        using hOwned.nowhereElse other hOther
    · intro hGuest
      have hSession := hOwned.noted.1 hRegistered
      rw [hSession] at hGuest
      cases hGuest
    · intro other hOther
      simp [Roster.holder?_unregister, hOther]
  · exact ⟨hOwned, .refl _⟩

/- After a release nothing of the session's is left. -/
theorem holder?_released
    (hOwned : Owned s.registry s.registered)
    (taken : String) :
    s.released.registry.holder? taken ≠ some .session := by
  have hReleased := (owned_released hOwned).1
  by_cases hTaken : taken = name
  · have hNoted : s.released.registered ≠ true := by
      unfold released
      split
      · simp
      · assumption
    rw [hTaken]
    exact fun hHolder => hNoted (hReleased.noted.2 hHolder)
  · exact hReleased.nowhereElse taken hTaken

end Session

end CallDiagnosis

------------------------------------------------------------
-- Ownership after a Request
------------------------------------------------------------

namespace CallDiagnosis

/- A request that does not come from a guest. -/
def Request.Own :
    Request → Prop
| .guestRegister _ => False
| .guestUnregister _ => False
| _ => True

/- A request that is not a session's own is a guest's. -/
theorem Request.of_not_own
    {request : Request}
    (hGuest : ¬ request.Own) :
    (∃ taken, request = .guestRegister taken) ∨
      ∃ given, request = .guestUnregister given := by
  cases request with
  | guestRegister taken => exact .inl ⟨taken, rfl⟩
  | guestUnregister given => exact .inr ⟨given, rfl⟩
  | _ => exact absurd trivial hGuest

namespace Session

variable {V : Type}
variable [Viewpoint V]
variable {s : Session V Roster}

/-
  A session's own requests leave its registration alone, or
  install it, or take it back.
-/
theorem registration_next
    (s : Session V Roster)
    (exchanges : List (Exchange surroundings))
    (request : Request)
    (hOwn : request.Own) :
    ∃ t : Session V Roster,
      (t = s ∨ t = s.installed ∨ t = s.released) ∧
      (s.next exchanges request).registry = t.registry ∧
      (s.next exchanges request).registered =
        t.registered := by
  cases request with
  | event event =>
      cases event with
      | settingsRead =>
          exact ⟨_, .inr (.inl rfl), rfl, rfl⟩
      | changesRoot path => exact ⟨s, .inl rfl, rfl, rfl⟩
      | changedDirectory path =>
          refine ⟨s, .inl rfl, ?_⟩
          by_cases hPath : path = ""
          · simp [next, afterEvent, hPath]
          · simp [next, afterEvent, hPath]
      | restart => exact ⟨_, .inr (.inr rfl), rfl, rfl⟩
      | shutdown => exact ⟨s, .inl rfl, rfl, rfl⟩
      | unload unloaded =>
          by_cases hName : unloaded = name
          -- The limits are forgotten first, which is nothing
          -- to the registration.
          · refine ⟨_, .inr (.inr rfl), ?_⟩
            by_cases hRegistered : s.registered = true
            · simp [next, afterEvent, hName, released,
                forgetLimits, hRegistered]
            · simp [next, afterEvent, hName, released,
                forgetLimits, hRegistered]
          · refine ⟨s, .inl rfl, ?_⟩
            simp [next, afterEvent, hName]
  | directive word arguments => exact ⟨s, .inl rfl, rfl, rfl⟩
  | explain e call => exact ⟨s, .inl rfl, rfl, rfl⟩
  | describe e call => exact ⟨s, .inl rfl, rfl, rfl⟩
  | walk e path intent expected =>
      exact ⟨s, .inl rfl, rfl, rfl⟩
  | limit request => exact ⟨s, .inl rfl, rfl, rfl⟩
  | watch signals => exact ⟨s, .inl rfl, rfl, rfl⟩
  | guestRegister taken => cases hOwn
  | guestUnregister given => cases hOwn

/- A session's own requests keep both notes alike. -/
theorem owned_own_next
    (hOwned : Owned s.registry s.registered)
    (exchanges : List (Exchange surroundings))
    (request : Request)
    (hOwn : request.Own) :
    Owned (s.next exchanges request).registry
        (s.next exchanges request).registered ∧
      Spares s.registry
        (s.next exchanges request).registry := by
  rcases registration_next s exchanges request hOwn with
    ⟨t, hCase, hRegistry, hRegistered⟩
  rw [hRegistry, hRegistered]
  rcases hCase with rfl | rfl | rfl
  · exact ⟨hOwned, .refl _⟩
  · exact owned_installed hOwned
  · exact owned_released hOwned

/-
  Every request keeps both notes alike, unless a guest gives
  up the name of a session that holds it.
-/
theorem owned_next
    (hOwned : Owned s.registry s.registered)
    (exchanges : List (Exchange surroundings))
    (request : Request)
    (hRespect :
      request = .guestUnregister name →
        s.registered = false) :
    Owned (s.next exchanges request).registry
      (s.next exchanges request).registered := by
  by_cases hOwn : request.Own
  · exact (owned_own_next hOwned exchanges request hOwn).1
  · rcases Request.of_not_own hOwn with
      ⟨taken, rfl⟩ | ⟨given, rfl⟩
    · exact hOwned.guestRegister taken
    · apply hOwned.guestUnregister given
      intro hGiven
      exact hRespect (by rw [hGiven])

end Session

end CallDiagnosis

------------------------------------------------------------
-- Ownership along a History
------------------------------------------------------------

namespace CallDiagnosis

namespace Session

variable {V : Type}
variable [Viewpoint V]
variable {first s : Session V Roster}
variable {deeds : List (Deed Request)}

/-
  Guests respect a session: while it is registered, they do
  not give up its name.
-/
def Respected
    (first : Session V Roster) :
    List (Deed Request) → Prop
| [] => True
| deed :: deeds =>
    (deed.request = .guestUnregister name →
      (replay first deeds).registered = false) ∧
    Respected first deeds

/- Along a history both notes stay alike. -/
theorem owned_replay
    (hFirst : Owned first.registry first.registered)
    (hRespected : Respected first deeds) :
    Owned (replay first deeds).registry
      (replay first deeds).registered := by
  induction deeds with
  | nil => exact hFirst
  | cons deed deeds ih =>
      rcases hRespected with ⟨hRespect, hEarlier⟩
      exact owned_next (ih hEarlier) deed.exchanges
        deed.request hRespect

/-
  After any history in which guests respect the session, it is
  registered exactly if the registry holds what it installed;
  none of its requests, nor its end, touches what belongs to
  guests; and nothing of its own is left after a restart, its
  unloading or its end.
-/
theorem session_owns_registration
    (settings : Settings)
    (view : V)
    (registry : Roster)
    (hGuests :
      ∀ taken, registry.holder? taken ≠ some .session)
    (hHistory :
      History (start settings view registry) deeds s)
    (hRespected :
      Respected (start settings view registry) deeds) :
    (s.registered = true ↔
      s.registry.holder? name = some .session) ∧
    ∀ {σ : Type} (host : Host surroundings σ)
      (level : Log.Level) (state : σ),
      (∀ request : Request, request.Own →
        Spares s.registry
          ((s.perform request).run
            host level state).value.2.registry) ∧
      Spares s.registry
        ((s.close).run host level state).value ∧
      ∀ taken,
        ((s.perform (.event .restart)).run
            host level state).value.2.registry.holder? taken ≠
          some .session ∧
        ((s.perform (.event (.unload name))).run
            host level state).value.2.registry.holder? taken ≠
          some .session ∧
        ((s.close).run host level state).value.holder? taken ≠
          some .session := by
  have hOwned : Owned s.registry s.registered := by
    rw [hHistory.eq_replay]
    exact owned_replay
      (owned_start settings view registry hGuests) hRespected
  refine ⟨hOwned.noted, ?_⟩
  intro σ host level state
  have hClose :
      ((s.close).run host level state).value =
        s.released.registry := by
    simp [close]
  refine ⟨?_, ?_, ?_⟩
  · intro request hOwn
    rw [perform_next]
    exact (owned_own_next hOwned _ request hOwn).2
  · rw [hClose]
    exact (owned_released hOwned).2
  · intro taken
    refine ⟨?_, ?_, ?_⟩
    · rw [perform_next]
      exact holder?_released hOwned taken
    · rw [perform_next]
      have hForgotten :
          Owned s.forgetLimits.registry
            s.forgetLimits.registered :=
        hOwned
      simpa [next, afterEvent]
        using holder?_released hForgotten taken
    · rw [hClose]
      exact holder?_released hOwned taken

/- A system without files. -/
def bareSystem : Scenario :=
  ⟨[], 500, .standard⟩

/- A session that found its name in the hands of a guest. -/
def latecomer : Session WorkingDirectory Roster :=
  let first :=
    start .standard (WorkingDirectory.ofPath "/") Roster.empty
  let taken :=
    ((first.perform (.guestRegister name)).run
      Scenario.host .off bareSystem).value.2
  ((taken.perform (.event .settingsRead)).run
    Scenario.host .off bareSystem).value.2

/- It is not registered, and the guest survives its restart. -/
theorem session_owns_registration_of_latecomer :
    latecomer.registered = false ∧
    (((latecomer.perform (.event .restart)).run
        Scenario.host .off bareSystem).value.2.registry.holder?
          name =
      some .guest) := by
  have hTaken :=
    History.step Scenario.host .off bareSystem
      (.guestRegister name)
      (.new :
        History
          (start .standard (WorkingDirectory.ofPath "/")
            Roster.empty)
          [] _)
  have hHistory :=
    History.step Scenario.host .off bareSystem
      (.event .settingsRead) hTaken
  rcases
      session_owns_registration .standard
        (WorkingDirectory.ofPath "/") Roster.empty
        (fun taken => by simp [Roster.holder?, Roster.empty])
        hHistory ⟨by simp, by simp, trivial⟩ with
    ⟨hNoted, hSpares⟩
  have hHolder :
      latecomer.registry.holder? name = some .guest := by
    decide
  constructor
  · rw [Bool.eq_false_iff]
    intro hRegistered
    have hSession := hNoted.1 hRegistered
    exact absurd (hHolder.symm.trans hSession) (by decide)
  · have hOwn :=
      (hSpares Scenario.host .off bareSystem).1
        (.event .restart) trivial
    exact (congrArg (·.holder? name)
      (hOwn.guest hHolder)).trans hHolder

end Session

end CallDiagnosis
