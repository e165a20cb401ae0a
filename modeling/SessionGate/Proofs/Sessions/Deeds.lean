import SessionGate.Proofs.Payload
import SessionGate.Proofs.Sessions.Operations

/-!
# What calls do to entries of sessions

A deed is a call in the world in which it is made. With sound stores outside of leap seconds a
deed sets the entry of the session that it issues, removes the entry of the token that it revokes,
removes an expired entry that it looks up or sweeps away, and leaves every other entry alone.
-/

namespace SessionGate

open Time

/-- A call on the session rules, or a sweep of the store of sessions. Calls bring their managers
along, which may differ in the length of their sessions. -/
inductive Call where
  | register (manager : Manager) (user : NewUser)
  | provision (manager : Manager) (user : NewUser) (role : Role)
  | login (manager : Manager) (credentials : Credentials)
  | logout (token : String)
  | resolve (token : String)
  | authenticate (carrier : Option Carrier)
  | sweep

def Call.after : Call → World → World
  | .register manager user, world => (world.attempt (manager.register user)).2
  | .provision manager user role, world => (world.attempt (manager.provision user role)).2
  | .login manager credentials, world => (world.attempt (manager.login credentials)).2
  | .logout token, world => (world.attempt (Manager.logout token)).2
  | .resolve token, world => (world.attempt (Manager.resolve token)).2
  | .authenticate carrier, world => (world.attempt (Gate.authenticate carrier)).2
  | .sweep, world => world.sweep.2

theorem Call.core_after_login (manager : Manager) (credentials : Credentials) (world : World) :
    (Call.after (.login manager credentials) world).core =
      (world.core.attempt (manager.login credentials)).2 := by
  rw [World.attempt_core]
  rfl

theorem Call.core_after_provision (manager : Manager) (user : NewUser) (role : Role)
    (world : World) :
    (Call.after (.provision manager user role) world).core =
      (world.core.attempt (manager.provision user role)).2 := by
  rw [World.attempt_core]
  rfl

/-- A call, and the world in which it is made. -/
structure Deed where
  before : World
  call : Call

namespace Deed

def after (deed : Deed) : World :=
  deed.call.after deed.before

/-- The deed is a login that finds an account and succeeds with a session. -/
def Issues (deed : Deed) (session : Session) (user : User) : Prop :=
  match deed.call with
  | .login manager credentials =>
      deed.before.users.find? credentials.email = some user ∧
        (deed.before.attempt (manager.login credentials)).1 = .ok (session, user.id)
  | _ => False

theorem issues_login_iff {manager : Manager} {credentials : Credentials} {world : World}
    {session : Session} {user : User} :
    (⟨world, .login manager credentials⟩ : Deed).Issues session user ↔
      world.core.users.find? credentials.email = some user ∧
        (world.core.attempt (manager.login credentials)).1 = .ok (session, user.id) := by
  rw [World.attempt_core]
  rfl

def Revokes (deed : Deed) (token : String) : Prop :=
  deed.call = .logout token

/-- The deed looks a token up in the store. A carrier that says that it has ended is refused
without a look. -/
def LooksUp (deed : Deed) (token : String) : Prop :=
  match deed.call with
  | .resolve other => other = token
  | .authenticate (some carrier) =>
      carrier.token = token ∧ carrier.hasEnded deed.before.now = false
  | _ => False

def IsSweep (deed : Deed) : Prop :=
  deed.call = .sweep

end Deed

namespace Core

variable {core : Core}

/-! ## What operations leave behind -/

/-- What no operation changes, and that tokens once drawn stay drawn. -/
structure Precedes (before after : Core) : Prop where
  now : after.now = before.now
  userStore : after.userStore = before.userStore
  sessionStore : after.sessionStore = before.sessionStore
  tokens : after.random.tokens = before.random.tokens
  tokensGiven : before.random.tokensGiven ≤ after.random.tokensGiven

theorem Precedes.refl (core : Core) : core.Precedes core :=
  ⟨rfl, rfl, rfl, rfl, Nat.le_refl _⟩

theorem Precedes.isSound {before after : Core} (precedes : before.Precedes after)
    (sound : before.IsSound) : after.IsSound :=
  ⟨precedes.userStore.trans sound.users, precedes.sessionStore.trans sound.sessions⟩

theorem provision_leaves (sound : core.IsSound) (manager : Manager) (user : NewUser)
    (role : Role) :
    core.Precedes (core.attempt (manager.provision user role)).2 ∧
      (core.attempt (manager.provision user role)).2.sessions = core.sessions := by
  rw [attempt_provision sound.users]
  cases manager.hasher.record (Octets.ofText user.password)
      (core.random.salts core.random.saltsGiven).toList with
  | error error => exact ⟨⟨rfl, rfl, rfl, rfl, Nat.le_refl _⟩, rfl⟩
  | ok record =>
      dsimp only
      cases core.users.insert ⟨user.email, user.name, record, role⟩ with
      | error error => exact ⟨⟨rfl, rfl, rfl, rfl, Nat.le_refl _⟩, rfl⟩
      | ok inserted => exact ⟨⟨rfl, rfl, rfl, rfl, Nat.le_refl _⟩, rfl⟩

theorem register_leaves (sound : core.IsSound) (manager : Manager) (user : NewUser) :
    core.Precedes (core.attempt (manager.register user)).2 ∧
      (core.attempt (manager.register user)).2.sessions = core.sessions := by
  rw [attempt_register sound.users]
  split
  · exact ⟨.refl core, rfl⟩
  · split
    · exact ⟨.refl core, rfl⟩
    · exact provision_leaves sound manager user .user

/-- A login issues a session with the token drawn for it, or leaves the sessions alone. -/
theorem login_leaves (sound : core.IsSound) (plain : core.now.isLeap = false) (manager : Manager)
    (credentials : Credentials) :
    (∃ session user, core.users.find? credentials.email = some user ∧
      session.token = core.nextToken ∧ session.token.isEmpty = false ∧
      session.identity = ⟨user.id, user.role⟩ ∧
      core.attempt (manager.login credentials) =
        (.ok (session, user.id),
          { core.tokenDrawn with sessions := core.sessions.insert session.token session.entry })) ∨
    ∃ error, (core.attempt (manager.login credentials)).1 = .error error ∧
      core.Precedes (core.attempt (manager.login credentials)).2 ∧
      (core.attempt (manager.login credentials)).2.sessions = core.sessions := by
  have drawn : core.Precedes core.tokenDrawn := ⟨rfl, rfl, rfl, rfl, Nat.le_succ _⟩
  cases found : core.users.find? credentials.email with
  | none =>
      rw [attempt_login sound, found]
      exact .inr ⟨_, rfl, .refl core, rfl⟩
  | some user =>
      cases right : manager.hasher.verifies (Octets.ofText credentials.password) user.password with
      | false =>
          rw [attempt_login sound, found]
          simp only [right]
          exact .inr ⟨_, rfl, .refl core, rfl⟩
      | true =>
          cases opened : manager.openSession user core.now core.nextToken with
          | error error =>
              rw [attempt_login sound, found]
              simp only [right, if_true]
              rw [issue, opened]
              exact .inr ⟨_, rfl, drawn, rfl⟩
          | ok pair =>
              obtain ⟨session, lifetime⟩ := pair
              obtain ⟨token, identity, -, -⟩ := Manager.eq_of_openSession opened
              cases blank : session.token.isEmpty with
              | true =>
                  rw [attempt_login sound, found]
                  simp only [right, if_true]
                  rw [issue, opened]
                  simp only [blank, if_true]
                  exact .inr ⟨_, rfl, drawn, rfl⟩
              | false =>
                  exact .inl ⟨session, user, rfl, token, blank, identity,
                    login_ok sound plain found right opened blank⟩

theorem logout_leaves (sound : core.IsSound) (token : String) :
    core.Precedes (core.attempt (Manager.logout token)).2 ∧
      ∀ key : String, key.isEmpty = false →
        (core.attempt (Manager.logout token)).2.sessions.find? key =
          if key = token then none else core.sessions.find? key := by
  rw [attempt_logout sound.sessions]
  cases blank : token.isEmpty with
  | true =>
      refine ⟨.refl core, fun key notBlank => ?_⟩
      have differs : key ≠ token := fun same => by simp [same, blank] at notBlank
      simp [differs]
  | false =>
      exact ⟨⟨rfl, rfl, rfl, rfl, Nat.le_refl _⟩, fun key _ =>
        core.sessions.find?_erase token key⟩

theorem resolve_leaves (sound : core.IsSound) (token : String) :
    core.Precedes (core.attempt (Manager.resolve token)).2 ∧
      ∀ key : String, key.isEmpty = false →
        (core.attempt (Manager.resolve token)).2.sessions.find? key =
          if key = token then core.sessions.live? core.now token else core.sessions.find? key := by
  rw [attempt_resolve_of_sound sound.sessions]
  cases blank : token.isEmpty with
  | true =>
      refine ⟨.refl core, fun key notBlank => ?_⟩
      have differs : key ≠ token := fun same => by simp [same, blank] at notBlank
      simp [differs]
  | false =>
      exact ⟨⟨rfl, rfl, rfl, rfl, Nat.le_refl _⟩,
        fun key _ => core.sessions.find?_get core.now token key⟩

theorem authenticate_leaves (sound : core.IsSound) (carrier : Carrier) :
    core.Precedes (core.attempt (Gate.authenticate (some carrier))).2 ∧
      ∀ key : String, key.isEmpty = false →
        (core.attempt (Gate.authenticate (some carrier))).2.sessions.find? key =
          if key = carrier.token ∧ carrier.hasEnded core.now = false then
            core.sessions.live? core.now carrier.token
          else core.sessions.find? key := by
  rw [attempt_authenticate]
  cases carrier.hasEnded core.now with
  | true => exact ⟨.refl core, fun key _ => by simp⟩
  | false =>
      have leaves := resolve_leaves sound carrier.token
      simp only [Bool.false_eq_true, if_false, and_true]
      rcases resolved : core.attempt (Manager.resolve carrier.token) with ⟨error | identity, after⟩
      · rw [resolved] at leaves
        exact leaves
      · rw [resolved] at leaves
        exact leaves

theorem sweep_leaves (world : World) :
    world.core.Precedes world.sweep.2.core ∧ ∀ key : String,
      world.sweep.2.core.sessions.find? key = world.core.sessions.live? world.now key :=
  ⟨⟨rfl, rfl, rfl, rfl, Nat.le_refl _⟩, world.sessions.find?_sweep world.now⟩

end Core

namespace Deed

variable {deed : Deed} {session : Session} {user : User} {key : String}

/-! ## What deeds leave behind -/

theorem precedes_after (sound : deed.before.core.IsSound)
    (plain : deed.before.now.isLeap = false) : deed.before.core.Precedes deed.after.core := by
  obtain ⟨before, call⟩ := deed
  cases call with
  | register manager user =>
      have leaves := (Core.register_leaves sound manager user).1
      rwa [World.attempt_core] at leaves
  | provision manager user role =>
      have leaves := (Core.provision_leaves sound manager user role).1
      rwa [World.attempt_core] at leaves
  | login manager credentials =>
      have leaves := Core.login_leaves sound plain manager credentials
      rw [World.attempt_core] at leaves
      obtain ⟨session, user, -, -, -, -, logged⟩ | ⟨-, -, precedes, -⟩ := leaves
      · change before.core.Precedes (before.attempt (manager.login credentials)).2.core
        rw [(Prod.mk.inj logged).2]
        exact ⟨rfl, rfl, rfl, rfl, Nat.le_succ _⟩
      · exact precedes
  | logout token =>
      have leaves := (Core.logout_leaves sound token).1
      rwa [World.attempt_core] at leaves
  | resolve token =>
      have leaves := (Core.resolve_leaves sound token).1
      rwa [World.attempt_core] at leaves
  | authenticate carrier =>
      cases carrier with
      | none =>
          change before.core.Precedes (before.attempt (Gate.authenticate none)).2.core
          have refused := World.attempt_core (Gate.authenticate none) before
          rw [← (Prod.mk.inj refused).2]
          exact .refl _
      | some carrier =>
          have leaves := (Core.authenticate_leaves sound carrier).1
          rwa [World.attempt_core] at leaves
  | sweep => exact (Core.sweep_leaves before).1

/-- A login that succeeds stores the entry of the session that it issues, under a new token. -/
theorem after_of_issues (sound : deed.before.core.IsSound)
    (plain : deed.before.now.isLeap = false) (issues : deed.Issues session user) :
    session.token = deed.before.core.nextToken ∧ session.token.isEmpty = false ∧
      session.identity = ⟨user.id, user.role⟩ ∧
      deed.after.core =
        { deed.before.core.tokenDrawn with
          sessions := deed.before.sessions.insert session.token session.entry } := by
  obtain ⟨before, call⟩ := deed
  cases call with
  | login manager credentials =>
      obtain ⟨found, logged⟩ := issues
      obtain ⟨issued, owner, ownerFound, token, notBlank, identity, outcome⟩ |
        ⟨error, failed, -⟩ := Core.login_leaves sound plain manager credentials
      · obtain rfl : owner = user := Option.some.inj (ownerFound.symm.trans found)
        rw [World.attempt_core] at outcome
        obtain ⟨same, left⟩ := Prod.mk.inj outcome
        obtain rfl : issued = session :=
          (Prod.mk.inj (Except.ok.inj (same.symm.trans logged))).1
        exact ⟨token, notBlank, identity, left⟩
      · rw [World.attempt_core] at failed
        cases failed.symm.trans logged
  | _ => exact issues.elim

/-- What a deed that issues no session leaves of the entry of a token. -/
theorem find?_after_of_not_issues (sound : deed.before.core.IsSound)
    (plain : deed.before.now.isLeap = false) (notBlank : key.isEmpty = false)
    (quiet : ∀ session user, ¬ deed.Issues session user) :
    (deed.Revokes key ∧ deed.after.sessions.find? key = none) ∨
      (¬ deed.Revokes key ∧ (deed.LooksUp key ∨ deed.IsSweep) ∧
        deed.after.sessions.find? key = deed.before.sessions.live? deed.before.now key) ∨
      (¬ deed.Revokes key ∧ ¬ (deed.LooksUp key ∨ deed.IsSweep) ∧
        deed.after.sessions.find? key = deed.before.sessions.find? key) := by
  obtain ⟨before, call⟩ := deed
  cases call with
  | register manager user =>
      have same := (Core.register_leaves sound manager user).2
      rw [World.attempt_core] at same
      exact .inr (.inr ⟨nofun, nofun, congrArg (ExpiringMap.find? · key) same⟩)
  | provision manager user role =>
      have same := (Core.provision_leaves sound manager user role).2
      rw [World.attempt_core] at same
      exact .inr (.inr ⟨nofun, nofun, congrArg (ExpiringMap.find? · key) same⟩)
  | login manager credentials =>
      obtain ⟨session, user, found, -, -, -, logged⟩ | ⟨-, -, -, same⟩ :=
        Core.login_leaves sound plain manager credentials
      · rw [World.attempt_core] at logged
        exact absurd ⟨found, (Prod.mk.inj logged).1⟩ (quiet session user)
      · rw [World.attempt_core] at same
        exact .inr (.inr ⟨nofun, nofun, congrArg (ExpiringMap.find? · key) same⟩)
  | logout token =>
      have left := (Core.logout_leaves sound token).2 key notBlank
      rw [World.attempt_core] at left
      by_cases same : key = token
      · rw [if_pos same] at left
        exact .inl ⟨by rw [same]; rfl, left⟩
      · rw [if_neg same] at left
        exact .inr (.inr ⟨fun revokes => same (Call.logout.inj revokes).symm, nofun, left⟩)
  | resolve token =>
      have left := (Core.resolve_leaves sound token).2 key notBlank
      rw [World.attempt_core] at left
      by_cases same : key = token
      · subst key
        rw [if_pos rfl] at left
        exact .inr (.inl ⟨nofun, .inl rfl, left⟩)
      · rw [if_neg same] at left
        exact .inr (.inr ⟨nofun, fun | .inl looked => same looked.symm, left⟩)
  | authenticate carrier =>
      cases carrier with
      | none =>
          have refused := World.attempt_core (Gate.authenticate none) before
          have same := congrArg (fun core => core.sessions.find? key) (Prod.mk.inj refused).2
          exact .inr (.inr ⟨nofun, nofun, same.symm⟩)
      | some carrier =>
          have left := (Core.authenticate_leaves sound carrier).2 key notBlank
          rw [World.attempt_core] at left
          by_cases looked : key = carrier.token ∧ carrier.hasEnded before.core.now = false
          · rw [if_pos looked] at left
            obtain ⟨rfl, running⟩ := looked
            exact .inr (.inl ⟨nofun, .inl ⟨rfl, running⟩, left⟩)
          · rw [if_neg looked] at left
            exact .inr (.inr ⟨nofun, fun | .inl ⟨same, running⟩ => looked ⟨same.symm, running⟩,
              left⟩)
  | sweep => exact .inr (.inl ⟨nofun, .inr rfl, (Core.sweep_leaves before).2 key⟩)

end Deed

end SessionGate
