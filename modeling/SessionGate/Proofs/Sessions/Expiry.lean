import SessionGate.Proofs.Http.Agreement
import SessionGate.Proofs.World.Calls

/-!
# When a session ends

The length of a session passes through four conversions: it is added to the clock, the time to the
sum is measured, its sign is dropped, and the store adds it to the clock again. Outside of leap
seconds they come to one addition. A login with the right password fails exactly where that sum is
out of range or the length is negative, and otherwise the session and its entry both end there.
-/

namespace SessionGate

open Time

/-- The failure is internal and words it like this. -/
def AuthError.IsFault (error : AuthError) (words : String) : Prop :=
  ∃ fault, error = .internal fault ∧ fault.message = words

namespace Manager

variable {manager : Manager} {now : Instant}

/-- The number of the instant at which a session ends that is opened now. -/
def ending (manager : Manager) (now : Instant) : Int :=
  now.nanos + manager.ttl.nanos

theorem openSession_of_not_inRange (plain : now.isLeap = false)
    (outside : ¬ Instant.InRange (manager.ending now)) (user : User) (token : String) :
    manager.openSession user now token = .error (.internal .expiryOutOfRange) := by
  have noSum : now.add? manager.ttl = none :=
    Option.eq_none_iff_forall_ne_some.mpr fun finish sum =>
      outside ((Instant.exists_add?_iff plain).mp ⟨finish, sum⟩)
  rw [openSession, noSum]

theorem openSession_of_negative (plain : now.isLeap = false)
    (inside : Instant.InRange (manager.ending now)) (negative : manager.ttl.nanos < 0)
    (user : User) (token : String) :
    manager.openSession user now token = .error (.internal .negativeTtl) := by
  obtain ⟨finish, sum⟩ := (Instant.exists_add?_iff plain).mpr inside
  have backwards : (finish.since now).nanos < 0 := by
    rwa [Instant.nanos_since_of_add? plain sum]
  rw [openSession, sum]
  simp only [Span.toLifetime?_eq_none_iff.mpr backwards]

/-- The four conversions come to one addition. -/
theorem exists_openSession_of_inRange (plain : now.isLeap = false)
    (inside : Instant.InRange (manager.ending now)) (lasts : 0 ≤ manager.ttl.nanos)
    (user : User) (token : String) :
    ∃ session lifetime, manager.openSession user now token = .ok (session, lifetime) ∧
      session.expiresAt.isLeap = false ∧ session.expiresAt.nanos = manager.ending now ∧
      (lifetime.nanos : Int) = manager.ttl.nanos := by
  obtain ⟨finish, sum⟩ := (Instant.exists_add?_iff plain).mpr inside
  have length := Instant.nanos_since_of_add? plain sum
  have number : finish.nanos = manager.ending now := by
    rw [Instant.add?_eq_ofNanos? plain] at sum
    exact Instant.nanos_of_ofNanos? sum
  obtain ⟨lifetime, positive⟩ : ∃ lifetime, (finish.since now).toLifetime? = some lifetime := by
    rw [← Option.ne_none_iff_exists', ne_eq, Span.toLifetime?_eq_none_iff, length]
    omega
  refine ⟨⟨token, finish, user.id, user.role⟩, lifetime, ?_, Instant.isLeap_of_add? plain sum,
    number, (Span.toLifetime?_eq_some_iff.mp positive).trans length⟩
  rw [openSession, sum]
  simp only [positive]

end Manager

namespace Core

variable {core : Core} {manager : Manager} {credentials : Credentials} {user : User}

/-- A right password has one account looked up and, where a session can be opened, stores it. -/
theorem attemptCalls_login (sound : core.IsSound)
    (found : core.users.find? credentials.email = some user)
    (right : manager.hasher.verifies (Octets.ofText credentials.password) user.password = true) :
    core.attemptCalls (manager.login credentials) =
      .findUser credentials.email ::
        match manager.openSession user core.now core.nextToken with
        | .error _ => []
        | .ok (session, lifetime) => [.putSession session.token session.identity lifetime] := by
  have quiet : core.runCalls
      (manager.hasher.verify (Octets.ofText credentials.password) user.password) = [] := by
    rw [Hasher.verify]
    cases manager.hasher.check (Octets.ofText credentials.password) user.password <;> rfl
  rw [Manager.login, attemptCalls_bind, attemptCalls_findUser, attempt_findUser sound.users, found]
  simp only [attemptCalls_bind, attemptCalls_perform, quiet, attempt_perform, run_verify, right,
    Bool.not_true, Bool.false_eq_true, if_false, attemptCalls_readClock, attempt_readClock,
    attemptCalls_drawToken, attempt_drawToken, attemptCalls_outcome, attempt_outcome,
    attemptCalls_putSession, List.nil_append, List.singleton_append, nextToken]
  cases manager.openSession user core.now
      (Token.ofBytes (core.random.tokens core.random.tokensGiven)) with
  | error error => rfl
  | ok opened =>
      dsimp only
      rcases core.tokenDrawn.attempt (Action.putSession opened.1.token opened.1.identity opened.2)
        with ⟨error | stored, after⟩ <;> rfl

/-- A session opened outside of leap seconds is stored to end when it says. -/
theorem attempt_login_of_openSession {session : Session} {lifetime : Lifetime}
    (sound : core.IsSound) (plain : core.now.isLeap = false)
    (found : core.users.find? credentials.email = some user)
    (right : manager.hasher.verifies (Octets.ofText credentials.password) user.password = true)
    (opened : manager.openSession user core.now core.nextToken = .ok (session, lifetime)) :
    core.attempt (manager.login credentials) =
      (.ok (session, user.id),
        { core.tokenDrawn with sessions := core.sessions.insert session.token session.entry }) := by
  have notBlank : session.token.isEmpty = false :=
    (Manager.eq_of_openSession opened).1 ▸ Token.isEmpty_ofBytes _
  exact login_ok sound plain found right opened notBlank

theorem attempt_login_of_not_opened {error : AuthError} (sound : core.IsSound)
    (found : core.users.find? credentials.email = some user)
    (right : manager.hasher.verifies (Octets.ofText credentials.password) user.password = true)
    (refused : manager.openSession user core.now core.nextToken = .error error) :
    core.attempt (manager.login credentials) = (.error error, core.tokenDrawn) := by
  rw [attempt_login sound, found]
  simp only [right, if_true]
  rw [issue, refused]

/-- A token speaks for the identity in its entry until the entry ends, and then for nobody. -/
theorem attempt_resolve_of_entry {session : Session} (sound : core.sessionStore = .sound)
    (notBlank : session.token.isEmpty = false)
    (entry : core.sessions.find? session.token = some session.entry) :
    (core.attempt (Manager.resolve session.token)).1 =
      if core.now < session.expiresAt then .ok session.identity else .error .notFound := by
  have expired : session.entry.isExpired core.now = decide (session.expiresAt ≤ core.now) := rfl
  rw [attempt_resolve_of_sound sound, notBlank, ExpiringMap.get_fst, ExpiringMap.live?, entry]
  by_cases running : core.now < session.expiresAt
  · have alive : ¬ session.expiresAt ≤ core.now := Instant.not_le.mpr running
    have kept : (some session.entry).filter (fun entry => !entry.isExpired core.now) =
        some session.entry := by simp [Option.filter, expired, alive]
    rw [kept, if_pos running, Option.map_some, Session.entry, identityOf, Identity.decode_encode]
    rfl
  · have ended : session.expiresAt ≤ core.now := not_not.mp fun alive =>
      running (Instant.not_le.mp alive)
    have gone : (some session.entry).filter (fun entry => !entry.isExpired core.now) = none := by
      simp [Option.filter, expired, ended]
    rw [gone, if_neg running]
    rfl

end Core

/-! ## The end of a login -/

/-- As long as the entry of the session is there, its token resolves to whom the session speaks
for before the session's end, and to nobody from then on. -/
def Session.ResolvesUntilEnd (session : Session) : Prop :=
  ∀ later : World, later.sessionStore = .sound →
    later.sessions.find? session.token = some session.entry →
    (later.attempt (Manager.resolve session.token)).1 =
      if later.now < session.expiresAt then .ok session.identity else .error .notFound

namespace World

variable {world : World} {manager : Manager} {credentials : Credentials} {user : User}

/-- A login has opened a session that ends, to the nanosecond, one session length from now. The
entry that the store keeps ends with it. -/
structure Opens (world : World) (manager : Manager) (credentials : Credentials) (user : User)
    (session : Session) (lifetime : Lifetime) : Prop where
  result : (world.attempt (manager.login credentials)).1 = .ok (session, user.id)
  token : session.token = world.core.nextToken
  identity : session.identity = ⟨user.id, user.role⟩
  plain : session.expiresAt.isLeap = false
  ending : session.expiresAt.nanos = manager.ending world.now
  length : (lifetime.nanos : Int) = manager.ttl.nanos
  calls : (world.attempt (manager.login credentials)).2.calls = world.calls ++
    [.findUser credentials.email, .putSession session.token session.identity lifetime]
  stored : (world.attempt (manager.login credentials)).2.sessions.find? session.token =
    some ⟨session.identity.encode, some session.expiresAt⟩
  resolves : session.ResolvesUntilEnd
  neverLives : manager.ttl.nanos = 0 → ∀ later : World, later.sessionStore = .sound →
    later.sessions.find? session.token = some session.entry → world.now ≤ later.now →
    (later.attempt (Manager.resolve session.token)).1 = .error .notFound

/-- How a login with the right password ends depends on the end of its session alone. Both ways to
fail are told apart by their wording, there is no other, and neither gets as far as the store of
sessions. -/
structure ObeysClock (world : World) (manager : Manager) (credentials : Credentials)
    (user : User) : Prop where
  outOfRange : (∃ error, (world.attempt (manager.login credentials)).1 = .error error ∧
      error.IsFault "session expiry past the representable date range") ↔
    ¬ Instant.InRange (manager.ending world.now)
  negative : Instant.InRange (manager.ending world.now) →
    ((∃ error, (world.attempt (manager.login credentials)).1 = .error error ∧
        error.IsFault ("session ttl out of range: " ++ lengthOutOfRange)) ↔
      manager.ttl.nanos < 0)
  opens : Instant.InRange (manager.ending world.now) → 0 ≤ manager.ttl.nanos →
    ∃ session lifetime, world.Opens manager credentials user session lifetime
  onlyFaults : ∀ error, (world.attempt (manager.login credentials)).1 = .error error →
    error = .internal .expiryOutOfRange ∨ error = .internal .negativeTtl
  noPut : ∀ error, (world.attempt (manager.login credentials)).1 = .error error →
    (world.attempt (manager.login credentials)).2.calls =
        world.calls ++ [.findUser credentials.email] ∧
      (world.attempt (manager.login credentials)).2.sessions = world.sessions

theorem attempt_login_fst_of_not_opened {error : AuthError} (sound : world.core.IsSound)
    (found : world.users.find? credentials.email = some user)
    (right : manager.hasher.verifies (Octets.ofText credentials.password) user.password = true)
    (refused : manager.openSession user world.now world.core.nextToken = .error error) :
    (world.attempt (manager.login credentials)).1 = .error error ∧
      (world.attempt (manager.login credentials)).2.calls =
        world.calls ++ [.findUser credentials.email] ∧
      (world.attempt (manager.login credentials)).2.sessions = world.sessions := by
  have failed := @Core.attempt_login_of_not_opened world.core manager credentials user error
    sound found right refused
  rw [attempt_core] at failed
  obtain ⟨result, after⟩ := Prod.mk.inj failed
  refine ⟨result, ?_, congrArg Core.sessions after⟩
  rw [calls_attempt, @Core.attemptCalls_login world.core manager credentials user sound found right,
    core_now, refused]

theorem exists_opens (sound : world.core.IsSound) (plain : world.now.isLeap = false)
    (found : world.users.find? credentials.email = some user)
    (right : manager.hasher.verifies (Octets.ofText credentials.password) user.password = true)
    (inside : Instant.InRange (manager.ending world.now)) (lasts : 0 ≤ manager.ttl.nanos) :
    ∃ session lifetime, world.Opens manager credentials user session lifetime := by
  obtain ⟨session, lifetime, opened, endsPlain, ending, length⟩ :=
    Manager.exists_openSession_of_inRange plain inside lasts user world.core.nextToken
  obtain ⟨token, identity, -, -⟩ := Manager.eq_of_openSession opened
  have notBlank : session.token.isEmpty = false := token ▸ Token.isEmpty_ofBytes _
  have entered := @Core.attempt_login_of_openSession world.core manager credentials user session
    lifetime sound plain found right opened
  rw [attempt_core] at entered
  obtain ⟨result, after⟩ := Prod.mk.inj entered
  have resolves : session.ResolvesUntilEnd := fun later laterSound entry => by
    have resolved := @Core.attempt_resolve_of_entry later.core session laterSound notBlank entry
    rwa [attempt_core] at resolved
  refine ⟨session, lifetime, result, token, identity, endsPlain, ending, length, ?_, ?_, resolves,
    fun zero later laterSound entry notBefore => ?_⟩
  · rw [calls_attempt,
      @Core.attemptCalls_login world.core manager credentials user sound found right, core_now,
      opened]
  · have stored := congrArg (fun core => core.sessions.find? session.token) after
    exact stored.trans ((ExpiringMap.find?_insert _ _ _ _).trans (if_pos rfl))
  · have ended : ¬ later.now < session.expiresAt := fun running => by
      have number : session.expiresAt.nanos ≤ world.now.nanos := by
        simp only [ending, Manager.ending, zero]
        omega
      have early := (Instant.le_iff_nanos_le endsPlain plain).mpr number
      exact Instant.not_le.mpr running (Instant.le_trans early notBefore)
    rw [resolves later laterSound entry, if_neg ended]

/-- Outside of leap seconds a login with the right password opens a session that ends exactly one
session length from now, wherever that is in the range of instants and not in the past. -/
theorem login_obeysClock (sound : world.core.IsSound) (plain : world.now.isLeap = false)
    (found : world.users.find? credentials.email = some user)
    (right : manager.hasher.verifies (Octets.ofText credentials.password) user.password = true) :
    world.ObeysClock manager credentials user := by
  by_cases inside : Instant.InRange (manager.ending world.now)
  case neg =>
    obtain ⟨failed, untouched⟩ := attempt_login_fst_of_not_opened sound found right
      (Manager.openSession_of_not_inRange plain inside user world.core.nextToken)
    exact {
      outOfRange := iff_of_true ⟨_, failed, _, rfl, rfl⟩ inside
      negative := fun within => absurd within inside
      opens := fun within => absurd within inside
      onlyFaults := fun error same => .inl (Except.error.inj (same.symm.trans failed))
      noPut := fun _ _ => untouched }
  case pos =>
    by_cases negative : manager.ttl.nanos < 0
    case pos =>
      obtain ⟨failed, untouched⟩ := attempt_login_fst_of_not_opened sound found right
        (Manager.openSession_of_negative plain inside negative user world.core.nextToken)
      refine {
        outOfRange := iff_of_false ?_ (not_not.mpr inside)
        negative := fun _ => iff_of_true ⟨_, failed, _, rfl, rfl⟩ negative
        opens := fun _ lasts => absurd negative (Int.not_lt.mpr lasts)
        onlyFaults := fun error same => .inr (Except.error.inj (same.symm.trans failed))
        noPut := fun _ _ => untouched }
      rintro ⟨error, same, fault, rfl, words⟩
      cases Except.error.inj (same.symm.trans failed)
      revert words
      decide
    case neg =>
      have opens := exists_opens sound plain found right inside (Int.not_lt.mp negative)
      have succeeds (error : AuthError) :
          (world.attempt (manager.login credentials)).1 ≠ .error error := by
        obtain ⟨session, lifetime, opened⟩ := opens
        rw [opened.result]
        nofun
      exact {
        outOfRange := iff_of_false (fun ⟨error, same, _⟩ => succeeds error same)
          (not_not.mpr inside)
        negative := fun _ => iff_of_false (fun ⟨error, same, _⟩ => succeeds error same) negative
        opens := fun _ _ => opens
        onlyFaults := fun error same => absurd same (succeeds error)
        noPut := fun error same => absurd same (succeeds error) }

end World

/-! ## The end of the range -/

/-- The instant a nanosecond before the last one. -/
def Time.Instant.nearlyLast : Instant :=
  ⟨latest / second, 999999998, last.notBefore, last.notAfter, by decide⟩

theorem Http.now_ownersWorld (now : Instant) : (ownersWorld now).now = now :=
  World.perform_now (.insertUser firstRow)
    (.start now (fun _ => .replicate 8 0) fun _ => .replicate 32 0)

/-- A nanosecond before the last instant there is room for a session of a nanosecond, and none any
more at the last instant. -/
theorem World.login_at_end_of_range :
    (∃ session lifetime, (Http.ownersWorld .nearlyLast).Opens .fleeting ⟨"a@b.c", "b"⟩ .owner
      session lifetime) ∧
    ∃ error, ((Http.ownersWorld .last).attempt (Manager.fleeting.login ⟨"a@b.c", "b"⟩)).1 =
        .error error ∧
      error.IsFault "session expiry past the representable date range" := by
  have sound (now : Instant) : (Http.ownersWorld now).core.IsSound :=
    (Http.ownersWorld_isReachable now).isRegular.sound
  have obeys (now : Instant) (plain : now.isLeap = false) :
      (Http.ownersWorld now).ObeysClock .fleeting ⟨"a@b.c", "b"⟩ .owner :=
    login_obeysClock (sound now) (by rwa [Http.now_ownersWorld]) rfl Hasher.verifies_owner
  constructor
  · apply (obeys .nearlyLast rfl).opens
    · rw [Http.now_ownersWorld]
      decide
    · decide
  · apply (obeys .last rfl).outOfRange.mpr
    rw [Http.now_ownersWorld]
    decide

end SessionGate
