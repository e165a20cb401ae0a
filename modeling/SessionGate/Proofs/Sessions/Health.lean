import Mathlib.Algebra.Group.Nat.Defs
import SessionGate.Proofs.Payload
import SessionGate.Proofs.Sessions.Conversations

/-!
# Healthy stores

Where both stores are sound and every entry speaks for somebody, no question does harm. A fault of
the server then has few causes: a password that is too long to be hashed, or a session without an
end that can be represented.
-/

namespace SessionGate

open Time

/-- The result is not a fault of the server. -/
def IsFaultless {α : Type} (result : Except AuthError α) : Prop :=
  ∀ fault, result ≠ .error (.internal fault)

theorem isFaultless_ok {α : Type} (value : α) : IsFaultless (.ok value) :=
  nofun

theorem isFaultless_error {α : Type} {error : AuthError}
    (ordinary : ∀ fault, error ≠ .internal fault) :
    IsFaultless (Except.error error : Except AuthError α) :=
  fun fault same => ordinary fault (Except.error.inj same)

theorem IsFaultless.error {α β : Type} {error : AuthError}
    (faultless : IsFaultless (Except.error error : Except AuthError α)) :
    IsFaultless (Except.error error : Except AuthError β) :=
  isFaultless_error fun fault same => faultless fault (congrArg Except.error same)

theorem UserTable.isFaultless_insert (table : UserTable) (row : UserRow) :
    IsFaultless (table.insert row) := by
  rw [insert]
  split
  · rintro _ ⟨⟩
  · split <;> rintro _ ⟨⟩

/-- The password is not too long to be hashed. -/
def IsHashable (password : String) : Prop :=
  (Octets.ofText password).length < 2 ^ 32

/-- Both stores are sound, and every entry speaks for somebody. -/
structure Core.Healthy (core : Core) : Prop where
  sound : core.IsSound
  entries : ∀ key entry, core.sessions.find? key = some entry →
    ∃ identity : Identity, entry.value = identity.encode

namespace Core.Healthy

variable {core after : Core} {manager : Manager}

theorem start (now : Instant) (salts : Nat → Salt) (tokens : Nat → TokenBytes) :
    (World.start now salts tokens).core.Healthy where
  sound := ⟨rfl, rfl⟩
  entries _ _ found := nomatch found

/-- Fewer entries, and another clock, random source or table of accounts, make no difference. -/
theorem of_fewer (healthy : core.Healthy) (userStore : after.userStore = core.userStore)
    (sessionStore : after.sessionStore = core.sessionStore)
    (fewer : ∀ key entry, after.sessions.find? key = some entry →
      core.sessions.find? key = some entry) : after.Healthy where
  sound := ⟨userStore.trans healthy.sound.users, sessionStore.trans healthy.sound.sessions⟩
  entries key entry found := healthy.entries key entry (fewer key entry found)

theorem erase (healthy : core.Healthy) (token : String) :
    { core with sessions := core.sessions.erase token }.Healthy := by
  refine healthy.of_fewer rfl rfl fun key entry found => ?_
  rw [ExpiringMap.find?_erase] at found
  split at found
  · cases found
  · exact found

theorem get (healthy : core.Healthy) (token : String) :
    { core with sessions := (core.sessions.get core.now token).2 }.Healthy := by
  refine healthy.of_fewer rfl rfl fun key entry found => ?_
  rw [ExpiringMap.find?_get] at found
  split at found
  · rename_i same
    rw [same]
    exact (ExpiringMap.live?_eq_some_iff.mp found).1
  · exact found

theorem set (healthy : core.Healthy) {token : String} {identity : Identity}
    {lifetime : Option Lifetime} {sessions : ExpiringMap}
    (stored : core.sessions.set core.now token identity.encode lifetime = .ok sessions) :
    { core with sessions }.Healthy := by
  rw [ExpiringMap.set] at stored
  cases expiry : ExpiringMap.expiry core.now lifetime with
  | error error =>
      rw [expiry] at stored
      cases stored
  | ok expires =>
      rw [expiry] at stored
      obtain rfl := Except.ok.inj stored
      refine ⟨⟨healthy.sound.users, healthy.sound.sessions⟩, fun key entry found => ?_⟩
      rw [ExpiringMap.find?_insert] at found
      split at found
      · obtain rfl := Option.some.inj found
        exact ⟨identity, rfl⟩
      · exact healthy.entries key entry found

/-- No question does harm, whoever asks it. -/
theorem answer (healthy : core.Healthy) (question : Question) :
    (core.answer question).2.Healthy := by
  cases question with
  | findUser email =>
      rw [answer_findUser healthy.sound.users]
      cases core.users.find? email <;> exact healthy
  | emailTaken email =>
      rw [answer_emailTaken healthy.sound.users]
      exact healthy
  | insertUser row =>
      rw [answer_insertUser healthy.sound.users]
      cases core.users.insert row with
      | error error => exact healthy
      | ok inserted => exact healthy.of_fewer rfl rfl fun _ _ found => found
  | putSession token identity lifetime =>
      rw [answer_putSession healthy.sound.sessions]
      split
      · exact healthy
      · split
        · rename_i sessions stored
          exact healthy.set stored
        · exact healthy
  | deleteSession token =>
      rw [answer_deleteSession healthy.sound.sessions]
      split
      · exact healthy
      · exact healthy.erase token
  | getSession token =>
      rw [answer_getSession_of_sound healthy.sound.sessions]
      split
      · exact healthy
      · exact healthy.get token
  | readClock | log event => exact healthy
  | drawSalt | drawToken => exact healthy.of_fewer rfl rfl fun _ _ found => found

theorem run {α : Type} (healthy : core.Healthy) (program : Program α) :
    (core.run program).2.Healthy := by
  induction program generalizing core with
  | done value => exact healthy
  | ask question resume ih => exact ih _ (healthy.answer question)

theorem attempt {α : Type} (healthy : core.Healthy) (action : Action α) :
    (core.attempt action).2.Healthy :=
  healthy.run action

/-! ## Results of operations -/

theorem isFaultless_provision (healthy : core.Healthy) {user : NewUser}
    (hashable : IsHashable user.password) (role : Role) :
    IsFaultless (core.attempt (manager.provision user role)).1 := by
  have short : ¬ 0xffffffff < (Octets.ofText user.password).length := by
    rw [IsHashable] at hashable
    omega
  rw [attempt_provision healthy.sound.users, Hasher.record_salt, if_neg short]
  dsimp only
  split
  · rename_i error refused
    exact (refused ▸ core.users.isFaultless_insert _).error
  · rintro _ ⟨⟩

theorem isFaultless_register (healthy : core.Healthy) {user : NewUser}
    (hashable : IsHashable user.password) :
    IsFaultless (core.attempt (manager.register user)).1 := by
  rw [attempt_register healthy.sound.users]
  split
  · rintro _ ⟨⟩
  · split
    · rintro _ ⟨⟩
    · exact healthy.isFaultless_provision hashable .user

theorem isFaultless_issue (canOpen : manager.CanOpen core.now) (user : User) :
    IsFaultless (core.issue manager user).1 := by
  obtain ⟨⟨session, lifetime⟩, opened⟩ : ∃ opened,
      manager.openSession user core.now core.nextToken = .ok opened :=
    Manager.exists_openSession_iff.mpr canOpen
  obtain ⟨expires, expiry, -⟩ := Manager.exists_expiry_of_openSession opened
  rw [issue, opened]
  dsimp only
  split
  · rintro _ ⟨⟩
  · rw [ExpiringMap.set, expiry]
    rintro _ ⟨⟩

theorem isFaultless_login (healthy : core.Healthy) (canOpen : manager.CanOpen core.now)
    (credentials : Credentials) :
    IsFaultless (core.attempt (manager.login credentials)).1 := by
  rw [attempt_login healthy.sound]
  split
  · rintro _ ⟨⟩
  · split
    · exact isFaultless_issue canOpen _
    · rintro _ ⟨⟩

theorem isFaultless_logout (healthy : core.Healthy) (token : String) :
    IsFaultless (core.attempt (Manager.logout token)).1 := by
  rw [attempt_logout healthy.sound.sessions]
  split <;> rintro _ ⟨⟩

/-- Every entry that is looked up can be read. -/
theorem isFaultless_identityOf (healthy : core.Healthy) (token : String) :
    IsFaultless (identityOf (core.sessions.get core.now token).1) := by
  rw [ExpiringMap.get_fst]
  cases live : core.sessions.live? core.now token with
  | none => rintro _ ⟨⟩
  | some entry =>
      obtain ⟨identity, value⟩ :=
        healthy.entries token entry (ExpiringMap.live?_eq_some_iff.mp live).1
      rw [Option.map_some, value, identityOf, Identity.decode_encode]
      rintro _ ⟨⟩

theorem isFaultless_resolve (healthy : core.Healthy) (token : String) :
    IsFaultless (core.attempt (Manager.resolve token)).1 := by
  rw [attempt_resolve_of_sound healthy.sound.sessions]
  split
  · rintro _ ⟨⟩
  · exact healthy.isFaultless_identityOf token

theorem isFaultless_authenticate (healthy : core.Healthy) (carrier : Option Carrier) :
    IsFaultless (core.attempt (Gate.authenticate carrier)).1 := by
  cases carrier with
  | none => rintro _ ⟨⟩
  | some carrier =>
      have resolved := healthy.isFaultless_resolve carrier.token
      rw [attempt_authenticate]
      split
      · rintro _ ⟨⟩
      · split
        · rename_i error after refused
          rw [refused] at resolved
          exact resolved
        · split <;> rintro _ ⟨⟩

end Core.Healthy

end SessionGate
