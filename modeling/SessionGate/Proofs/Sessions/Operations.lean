import SessionGate.Gate
import SessionGate.Proofs.Passwords
import SessionGate.Proofs.Store.UserTable
import SessionGate.Proofs.Time.Instant
import SessionGate.Proofs.World.Core

/-!
# The operations over sound stores

What each operation answers, and what it leaves behind, in a core whose stores are sound. An
operation asks its questions in a fixed order and ends with the first failure.
-/

namespace SessionGate

open Time

def Carrier.hasEnded (carrier : Carrier) (now : Instant) : Bool :=
  match carrier.expires with
  | none => false
  | some expires => expires ≤ now

/-- A manager with cheap costs, whose sessions last a day. -/
def Manager.cheap : Manager :=
  ⟨⟨.cheap, rfl⟩, .day⟩

def Session.entry (session : Session) : Entry :=
  ⟨session.identity.encode, some session.expiresAt⟩

namespace Manager

variable {manager : Manager} {user : User} {now : Instant} {token : String} {session : Session}
  {lifetime : Lifetime}

/-- A session that is opened has the token drawn for it, and the identity that the account has. -/
theorem eq_of_openSession
    (opened : manager.openSession user now token = .ok (session, lifetime)) :
    session.token = token ∧ session.identity = ⟨user.id, user.role⟩ ∧
      now.add? manager.ttl = some session.expiresAt ∧
      (session.expiresAt.since now).toLifetime? = some lifetime := by
  unfold openSession at opened
  split at opened
  · cases opened
  · rename_i expiresAt sum
    split at opened
    · cases opened
    · rename_i length positive
      obtain ⟨rfl, rfl⟩ := Prod.mk.inj (Except.ok.inj opened)
      exact ⟨rfl, rfl, sum, positive⟩

/-- Outside of leap seconds the entry of a session that is opened now expires with the session. -/
theorem expiry_of_openSession (plain : now.isLeap = false)
    (opened : manager.openSession user now token = .ok (session, lifetime)) :
    ExpiringMap.expiry now (some lifetime) = .ok (some session.expiresAt) := by
  obtain ⟨-, -, sum, positive⟩ := eq_of_openSession opened
  have returns := Instant.add?_since plain (Instant.isLeap_of_add? plain sum)
  simp only [ExpiringMap.expiry, Span.toSpan?_of_toLifetime? positive, returns]

/-- The entry of a session that is opened now can be given an end, and is alive until then if it has
any time to live. -/
theorem exists_expiry_of_openSession
    (opened : manager.openSession user now token = .ok (session, lifetime)) :
    ∃ expires, ExpiringMap.expiry now (some lifetime) = .ok (some expires) ∧
      (0 < lifetime.nanos → now < expires) := by
  obtain ⟨-, -, sum, positive⟩ := eq_of_openSession opened
  have length := Span.toLifetime?_eq_some_iff.mp positive
  obtain ⟨expires, later⟩ := Instant.exists_add?_since sum (by omega)
  refine ⟨expires, ?_, fun alive => Instant.lt_of_add? later (by omega)⟩
  simp only [ExpiringMap.expiry, Span.toSpan?_of_toLifetime? positive, later]

end Manager

namespace Core

variable {core : Core}

@[simp]
theorem attempt_logService (level : Level) (message : String) (fields : List (String × String))
    (core : Core) : core.attempt (Action.logService level message fields) = (.ok (), core) :=
  rfl

@[simp]
theorem attempt_readClock (core : Core) : core.attempt Action.readClock = (.ok core.now, core) :=
  rfl

@[simp]
theorem attempt_drawSalt (core : Core) :
    core.attempt Action.drawSalt =
      (.ok (core.random.salts core.random.saltsGiven), core.saltDrawn) :=
  rfl

@[simp]
theorem attempt_drawToken (core : Core) :
    core.attempt Action.drawToken =
      (.ok (core.random.tokens core.random.tokensGiven), core.tokenDrawn) :=
  rfl

@[simp]
theorem run_verify (hasher : Hasher) (password : Octets) (stored : PasswordRecord) (core : Core) :
    core.run (hasher.verify password stored) = (hasher.verifies password stored, core) := by
  rw [Hasher.verify, Hasher.verifies]
  cases hasher.check password stored with
  | malformed => rfl
  | failed error => rfl
  | compared isSame => cases isSame <;> rfl

theorem attempt_insertUser (sound : core.userStore = .sound) (row : UserRow) :
    core.attempt (Action.insertUser row) =
      match core.users.insert row with
      | .ok (id, users) => (.ok id, { core with users })
      | .error error => (.error error, core) :=
  answer_insertUser sound row

theorem attempt_provision (sound : core.userStore = .sound) (manager : Manager) (user : NewUser)
    (role : Role) :
    core.attempt (manager.provision user role) =
      match manager.hasher.record (Octets.ofText user.password)
          (core.random.salts core.random.saltsGiven).toList with
      | .error error => (.error error, core.saltDrawn)
      | .ok record =>
          match core.users.insert ⟨user.email, user.name, record, role⟩ with
          | .error error => (.error error, core.saltDrawn)
          | .ok (id, users) => (.ok id, { core.saltDrawn with users }) := by
  have drawn : core.saltDrawn.userStore = .sound := sound
  simp only [Manager.provision, Hasher.freshTextRecord_eq, Hasher.freshRecord, attempt_bind,
    attempt_drawSalt, attempt_outcome]
  cases manager.hasher.record (Octets.ofText user.password)
      (core.random.salts core.random.saltsGiven).toList with
  | error error => rfl
  | ok record =>
      have users : core.saltDrawn.users = core.users := rfl
      simp only [attempt_insertUser drawn, users]
      cases core.users.insert ⟨user.email, user.name, record, role⟩ with
      | error error => rfl
      | ok inserted => rfl

/-- An account that has been opened is found under its address, with its role and a record that
the password verifies against. -/
theorem provision_ok {manager : Manager} {user : NewUser} {role : Role} {id : UserId}
    {after : Core} (sound : core.userStore = .sound)
    (provisioned : core.attempt (manager.provision user role) = (.ok id, after)) :
    ∃ record, after.users.find? user.email = some ⟨id, user.email, user.name, record, role⟩ ∧
      manager.hasher.verifies (Octets.ofText user.password) record = true ∧
      after = { core.saltDrawn with users := after.users } := by
  rw [attempt_provision sound] at provisioned
  cases made : manager.hasher.record (Octets.ofText user.password)
      (core.random.salts core.random.saltsGiven).toList with
  | error error =>
      rw [made] at provisioned
      cases provisioned
  | ok record =>
      rw [made] at provisioned
      cases inserted : core.users.insert ⟨user.email, user.name, record, role⟩ with
      | error error => simp [inserted] at provisioned
      | ok pair =>
          obtain ⟨given, users⟩ := pair
          simp only [inserted, Prod.mk.injEq, Except.ok.injEq] at provisioned
          obtain ⟨rfl, rfl⟩ := provisioned
          refine ⟨record, ?_, Hasher.verifies_of_record (by simp [saltLength]) made, rfl⟩
          rw [UserTable.find?_insert inserted, if_pos rfl]
          rfl

theorem attempt_register (sound : core.userStore = .sound) (manager : Manager) (user : NewUser) :
    core.attempt (manager.register user) =
      if user.isEmpty then (.error (.badRequest .emptyUser), core)
      else if core.users.contains user.email then (.error .alreadyExists, core)
      else core.attempt (manager.provision user .user) := by
  rw [Manager.register]
  cases user.isEmpty with
  | true => rfl
  | false =>
      have asked : core.attempt (Action.emailTaken user.email) =
          (.ok (core.users.contains user.email), core) := answer_emailTaken sound user.email
      simp only [attempt_bind, asked, Bool.false_eq_true, if_false]
      cases core.users.contains user.email <;> rfl

def nextToken (core : Core) : String :=
  Token.ofBytes (core.random.tokens core.random.tokensGiven)

/-- Issue a session for an account whose password has been checked. -/
def issue (manager : Manager) (user : User) (core : Core) :
    Except AuthError (Session × UserId) × Core :=
  match manager.openSession user core.now core.nextToken with
  | .error error => (.error error, core.tokenDrawn)
  | .ok (session, lifetime) =>
      if session.token.isEmpty then (.error .invalidToken, core.tokenDrawn)
      else match core.sessions.set core.now session.token session.identity.encode
          (some lifetime) with
        | .error error => (.error error, core.tokenDrawn)
        | .ok sessions => (.ok (session, user.id), { core.tokenDrawn with sessions })

theorem attempt_findUser (sound : core.userStore = .sound) (email : String) :
    core.attempt (Action.findUser email) =
      match core.users.find? email with
      | some user => (.ok user, core)
      | none => (.error .notFound, core) :=
  answer_findUser sound email

theorem attempt_putSession (sound : core.sessionStore = .sound) (token : String)
    (identity : Identity) (lifetime : Lifetime) :
    core.attempt (Action.putSession token identity lifetime) =
      if token.isEmpty then (.error .invalidToken, core)
      else match core.sessions.set core.now token identity.encode (some lifetime) with
        | .ok sessions => (.ok (), { core with sessions })
        | .error error => (.error error, core) :=
  answer_putSession sound token identity lifetime

theorem attempt_login (sound : core.IsSound) (manager : Manager) (credentials : Credentials) :
    core.attempt (manager.login credentials) =
      match core.users.find? credentials.email with
      | none => (.error .notFound, core)
      | some user =>
          if manager.hasher.verifies (Octets.ofText credentials.password) user.password then
            core.issue manager user
          else (.error .wrongCredentials, core) := by
  rw [Manager.login, attempt_bind, attempt_findUser sound.users]
  cases core.users.find? credentials.email with
  | none => rfl
  | some user =>
      simp only [attempt_bind, attempt_perform, run_verify]
      cases manager.hasher.verifies (Octets.ofText credentials.password) user.password with
      | false => rfl
      | true =>
          simp only [Bool.not_true, Bool.false_eq_true, if_false, if_true, attempt_bind,
            attempt_readClock, attempt_drawToken, attempt_outcome, issue, nextToken]
          cases manager.openSession user core.now
              (Token.ofBytes (core.random.tokens core.random.tokensGiven)) with
          | error error => rfl
          | ok opened =>
              obtain ⟨session, lifetime⟩ := opened
              have drawn : core.tokenDrawn.sessionStore = .sound := sound.sessions
              have now : core.tokenDrawn.now = core.now := rfl
              have sessions : core.tokenDrawn.sessions = core.sessions := rfl
              simp only [attempt_putSession drawn, now, sessions]
              cases session.token.isEmpty with
              | true => rfl
              | false =>
                  simp only [Bool.false_eq_true, if_false]
                  cases core.sessions.set core.now session.token session.identity.encode
                    (some lifetime) <;> rfl

/-- A right password opens a session, if it can be opened and stored and there is a token for it. -/
theorem login_ok_of_expiry {manager : Manager} {credentials : Credentials} {user : User}
    {session : Session} {lifetime : Lifetime} {expires : Option Instant} (sound : core.IsSound)
    (found : core.users.find? credentials.email = some user)
    (right : manager.hasher.verifies (Octets.ofText credentials.password) user.password = true)
    (opened : manager.openSession user core.now core.nextToken = .ok (session, lifetime))
    (notBlank : session.token.isEmpty = false)
    (expiry : ExpiringMap.expiry core.now (some lifetime) = .ok expires) :
    core.attempt (manager.login credentials) =
      (.ok (session, user.id),
        { core.tokenDrawn with
          sessions := core.sessions.insert session.token ⟨session.identity.encode, expires⟩ }) := by
  rw [attempt_login sound, found]
  simp only [right, if_true]
  rw [issue, opened]
  simp only [notBlank, Bool.false_eq_true, if_false]
  rw [ExpiringMap.set, expiry]
  rfl

/-- Outside of leap seconds the entry that a login leaves ends with the session. -/
theorem login_ok {manager : Manager} {credentials : Credentials} {user : User} {session : Session}
    {lifetime : Lifetime} (sound : core.IsSound) (plain : core.now.isLeap = false)
    (found : core.users.find? credentials.email = some user)
    (right : manager.hasher.verifies (Octets.ofText credentials.password) user.password = true)
    (opened : manager.openSession user core.now core.nextToken = .ok (session, lifetime))
    (notBlank : session.token.isEmpty = false) :
    core.attempt (manager.login credentials) =
      (.ok (session, user.id),
        { core.tokenDrawn with sessions := core.sessions.insert session.token session.entry }) :=
  login_ok_of_expiry sound found right opened notBlank
    (Manager.expiry_of_openSession plain opened)

theorem attempt_logout (sound : core.sessionStore = .sound) (token : String) :
    core.attempt (Manager.logout token) =
      if token.isEmpty then (.error .invalidToken, core)
      else (.ok (), { core with sessions := core.sessions.erase token }) := by
  have asked : core.attempt (Action.deleteSession token) =
      if token.isEmpty then (.error .invalidToken, core)
      else (.ok (), { core with sessions := core.sessions.erase token }) :=
    answer_deleteSession sound token
  rw [Manager.logout]
  cases blank : token.isEmpty with
  | true => rfl
  | false =>
      simp only [attempt_bind, asked, blank, Bool.false_eq_true, if_false]
      rfl

theorem attempt_resolve (token : String) (core : Core) :
    core.attempt (Manager.resolve token) =
      if token.isEmpty then (.error .invalidToken, core) else core.lookUp token := by
  rw [Manager.resolve]
  cases blank : token.isEmpty with
  | true => rfl
  | false =>
      have asked : core.attempt (Action.getSession token) = core.lookUp token :=
        answer_getSession blank
      simp only [attempt_bind, asked, Bool.false_eq_true, if_false]
      rcases core.lookUp token with ⟨error | identity, after⟩
      · rfl
      · rfl

theorem attempt_resolve_of_sound (sound : core.sessionStore = .sound) (token : String) :
    core.attempt (Manager.resolve token) =
      if token.isEmpty then (.error .invalidToken, core)
      else (identityOf (core.sessions.get core.now token).1,
        { core with sessions := (core.sessions.get core.now token).2 }) := by
  rw [attempt_resolve, lookUp_of_sound sound]

/-! ## The gate -/

theorem attempt_checkExpiry (carrier : Carrier) (core : Core) :
    core.attempt (Gate.checkExpiry carrier) =
      if carrier.hasEnded core.now then (.error .unauthorized, core) else (.ok (), core) := by
  obtain ⟨token, expires⟩ := carrier
  rw [Gate.checkExpiry, Carrier.hasEnded]
  cases expires with
  | none => rfl
  | some expires =>
      simp only [attempt_bind, attempt_readClock]
      by_cases ended : expires ≤ core.now
      · simp only [ended, decide_true, if_true]
        rfl
      · simp only [ended, decide_false, if_false, Bool.false_eq_true]
        rfl

/-- The gate resolves the token of a carrier that has not ended, and refuses nobody's identity. -/
theorem attempt_authenticate (carrier : Carrier) (core : Core) :
    core.attempt (Gate.authenticate (some carrier)) =
      if carrier.hasEnded core.now then (.error .unauthorized, core)
      else match core.attempt (Manager.resolve carrier.token) with
        | (.error error, core) => (.error error, core)
        | (.ok identity, core) =>
            (if identity.userId = 0 then .error .unauthorized else .ok identity, core) := by
  rw [Gate.authenticate, attempt_bind, attempt_checkExpiry]
  cases carrier.hasEnded core.now with
  | true => rfl
  | false =>
      simp only [Bool.false_eq_true, if_false, attempt_bind]
      rcases core.attempt (Manager.resolve carrier.token) with ⟨error | identity, after⟩
      · rfl
      · by_cases nobody : identity.userId = 0 <;> simp only [nobody, if_true, if_false] <;> rfl

end Core

end SessionGate
