import SessionGate.Proofs.Sessions.Operations
import SessionGate.Proofs.World.Conversation

/-!
# How operations converse

What each operation on sessions asks, in which order, and what it makes of the answers, whatever
they are. Nothing is known of the stores here: an answer may be any value or failure.
-/

namespace SessionGate

open Time

/-- The record is of the right size, and the password is accepted against it. -/
structure Hasher.Records (hasher : Hasher) (password : String) (record : PasswordRecord) :
    Prop where
  size : record.octets.length = saltLength + hasher.costs.keyLength
  right : hasher.verifies (Octets.ofText password) record = true

theorem Hasher.records_of_record {hasher : Hasher} {password : String} {salt : Salt}
    {record : PasswordRecord}
    (made : hasher.record (Octets.ofText password) salt.toList = .ok record) :
    hasher.Records password record where
  size := by
    rw [octets_of_record made, List.length_append, Hash.Argon2id.length_key]
    simp [saltLength]
  right := verifies_of_record (by simp [saltLength]) made

theorem Hasher.converses_freshRecord {hasher : Hasher} {password : Octets} {turns : List Turn}
    {result : Except AuthError PasswordRecord} :
    (hasher.freshRecord password).Converses turns result ↔
      (∃ report, turns = [⟨.drawSalt, .error report⟩] ∧
        result = .error (.internal (.saltDraw report))) ∨
      ∃ salt, turns = [⟨.drawSalt, .ok salt⟩] ∧ result = hasher.record password salt.toList := by
  rw [freshRecord, Action.converses_drawSalt_bind_iff]
  simp only [Action.converses_settled_iff]
  refine or_congr_right ⟨?_, ?_⟩
  · rintro ⟨salt, _, rfl, rfl, rfl⟩
    exact ⟨salt, rfl, rfl⟩
  · rintro ⟨salt, rfl, rfl⟩
    exact ⟨salt, [], rfl, rfl, rfl⟩

theorem Hasher.converses_verify {hasher : Hasher} {password : Octets} {stored : PasswordRecord}
    {turns : List Turn} {isRight : Bool}
    (converses : (hasher.verify password stored).Converses turns isRight) :
    turns = [] ∧ isRight = hasher.verifies password stored := by
  rw [verify] at converses
  rw [verifies]
  cases checked : hasher.check password stored with
  | compared isSame =>
      rw [checked] at converses
      obtain ⟨rfl, rfl⟩ := Program.converses_done_iff.mp converses
      exact ⟨rfl, by cases isRight <;> rfl⟩
  | malformed =>
      rw [checked] at converses
      obtain ⟨_, _, _, rfl, logged, ended⟩ := Program.converses_bind_iff.mp converses
      obtain rfl := Program.converses_query_log_iff.mp logged
      obtain ⟨rfl, rfl⟩ := Program.converses_done_iff.mp ended
      exact ⟨rfl, rfl⟩
  | failed error =>
      rw [checked] at converses
      obtain ⟨_, _, _, rfl, logged, ended⟩ := Program.converses_bind_iff.mp converses
      obtain rfl := Program.converses_query_log_iff.mp logged
      obtain ⟨rfl, rfl⟩ := Program.converses_done_iff.mp ended
      exact ⟨rfl, rfl⟩

namespace Manager

variable {manager : Manager} {user : NewUser} {role : Role} {credentials : Credentials}
  {token : String} {turns : List Turn}

/-- How an account is provisioned: with a fresh salt, if there is one, and one insertion whose
answer is passed on. -/
inductive Provisions (manager : Manager) (user : NewUser) (role : Role) :
    List Turn → Except AuthError UserId → Prop where
  | unsalted (report : String) :
      Provisions manager user role [⟨.drawSalt, .error report⟩]
        (.error (.internal (.saltDraw report)))
  | unhashable (salt : Salt) (long : 0xffffffff < (Octets.ofText user.password).length) :
      Provisions manager user role [⟨.drawSalt, .ok salt⟩]
        (.error (.internal (.hashing .passwordTooLong)))
  | inserted (salt : Salt) {record : PasswordRecord}
      (made : manager.hasher.record (Octets.ofText user.password) salt.toList = .ok record)
      (records : manager.hasher.Records user.password record) (answer : Except AuthError UserId) :
      Provisions manager user role
        [⟨.drawSalt, .ok salt⟩, ⟨.insertUser ⟨user.email, user.name, record, role⟩, answer⟩]
        answer

theorem converses_provision {result : Except AuthError UserId}
    (converses : (manager.provision user role).Converses turns result) :
    manager.Provisions user role turns result := by
  rw [provision, Hasher.freshTextRecord_eq, Action.converses_bind_iff] at converses
  simp only [Hasher.converses_freshRecord, Action.converses_bind_iff (α := UserId) (β := UserId),
    Action.converses_insertUser_iff, Action.converses_logService_bind_iff,
    Action.converses_pure_iff] at converses
  rcases converses with ⟨error, ⟨report, rfl, failed⟩ | ⟨salt, rfl, failed⟩, rfl⟩ |
    ⟨_, _, record, rfl, ⟨report, rfl, impossible⟩ | ⟨salt, rfl, made⟩,
      ⟨error, rfl, rfl⟩ | ⟨_, _, id, rfl, rfl, rfl, rfl⟩⟩
  · cases failed
    exact .unsalted report
  · rw [Hasher.record_salt] at failed
    split at failed
    · rename_i long
      cases failed
      exact .unhashable salt long
    · cases failed
  · cases impossible
  · cases impossible
  · exact .inserted salt made.symm (Hasher.records_of_record made.symm) (.error error)
  · exact .inserted salt made.symm (Hasher.records_of_record made.symm) (.ok id)

/-- How a user is registered: who says nothing at all is refused at once, and an account is
provisioned where the address is not taken. -/
inductive Registers (manager : Manager) (user : NewUser) :
    List Turn → Except AuthError UserId → Prop where
  | nothing (empty : user.isEmpty = true) :
      Registers manager user [] (.error (.badRequest .emptyUser))
  | unknown (something : user.isEmpty = false) (error : AuthError) :
      Registers manager user [⟨.emailTaken user.email, .error error⟩] (.error error)
  | taken (something : user.isEmpty = false) :
      Registers manager user [⟨.emailTaken user.email, .ok true⟩] (.error .alreadyExists)
  | free (something : user.isEmpty = false) {turns : List Turn} {result : Except AuthError UserId}
      (provisions : manager.Provisions user .user turns result) :
      Registers manager user (⟨.emailTaken user.email, .ok false⟩ :: turns) result

theorem converses_register {result : Except AuthError UserId}
    (converses : (manager.register user).Converses turns result) :
    manager.Registers user turns result := by
  rw [register] at converses
  cases something : user.isEmpty with
  | true =>
      rw [something, if_pos rfl] at converses
      obtain ⟨rfl, rfl⟩ := Action.converses_throw_iff.mp converses
      exact .nothing something
  | false =>
      rw [something] at converses
      simp only [Bool.false_eq_true, if_false, Action.converses_bind_iff,
        Action.converses_emailTaken_iff] at converses
      rcases converses with ⟨error, rfl, rfl⟩ | ⟨_, rest, isTaken, rfl, rfl, later⟩
      · exact .unknown something error
      · cases isTaken with
        | true =>
            rw [if_pos rfl, Action.converses_logService_bind_iff,
              Action.converses_throw_bind_iff] at later
            obtain ⟨rfl, rfl⟩ := later
            exact .taken something
        | false => exact .free something (converses_provision later)

/-- A session can be opened now: it has an end, which does not come before its beginning. -/
def CanOpen (manager : Manager) (now : Instant) : Prop :=
  ∃ expiresAt, now.add? manager.ttl = some expiresAt ∧ 0 ≤ (expiresAt.since now).nanos

/-- Outside of leap seconds the length of a session settles whether it can be opened. -/
theorem canOpen_iff {now : Instant} (plain : now.isLeap = false) :
    manager.CanOpen now ↔
      (∃ expiresAt, now.add? manager.ttl = some expiresAt) ∧ 0 ≤ manager.ttl.nanos := by
  constructor
  · rintro ⟨expiresAt, sum, lasts⟩
    rw [Instant.nanos_since_of_add? plain sum] at lasts
    exact ⟨⟨expiresAt, sum⟩, lasts⟩
  · rintro ⟨⟨expiresAt, sum⟩, lasts⟩
    refine ⟨expiresAt, sum, ?_⟩
    rwa [Instant.nanos_since_of_add? plain sum]

theorem exists_openSession_iff {user : User} {now : Instant} :
    (∃ opened, manager.openSession user now token = .ok opened) ↔ manager.CanOpen now := by
  rw [openSession, CanOpen]
  cases now.add? manager.ttl with
  | none => simp
  | some expiresAt =>
      dsimp only
      cases lasts : (expiresAt.since now).toLifetime? with
      | none =>
          have negative := Span.toLifetime?_eq_none_iff.mp lasts
          simp only [reduceCtorEq, exists_false, Option.some.injEq, exists_eq_left', false_iff]
          omega
      | some lifetime =>
          have length := Span.toLifetime?_eq_some_iff.mp lasts
          simp only [Except.ok.injEq, exists_eq', Option.some.injEq, exists_eq_left', true_iff]
          omega

/-- How credentials are taken. The clock is read and a token drawn where the password is right, and
the session is stored where there is a token and the session can be opened. -/
inductive LogsIn (manager : Manager) (credentials : Credentials) :
    List Turn → Except AuthError (Session × UserId) → Prop where
  | unknown (error : AuthError) :
      LogsIn manager credentials [⟨.findUser credentials.email, .error error⟩] (.error error)
  | wrong {user : User}
      (wrong : manager.hasher.verifies (Octets.ofText credentials.password) user.password = false) :
      LogsIn manager credentials [⟨.findUser credentials.email, .ok user⟩]
        (.error .wrongCredentials)
  | undrawn {user : User} (now : Instant) (report : String)
      (right : manager.hasher.verifies (Octets.ofText credentials.password) user.password = true) :
      LogsIn manager credentials
        [⟨.findUser credentials.email, .ok user⟩, ⟨.readClock, now⟩, ⟨.drawToken, .error report⟩]
        (.error (.internal (.tokenDraw report)))
  | unopened {user : User} {now : Instant} {error : AuthError} (bytes : TokenBytes)
      (right : manager.hasher.verifies (Octets.ofText credentials.password) user.password = true)
      (refused : manager.openSession user now (Token.ofBytes bytes) = .error error) :
      LogsIn manager credentials
        [⟨.findUser credentials.email, .ok user⟩, ⟨.readClock, now⟩, ⟨.drawToken, .ok bytes⟩]
        (.error error)
  | stored {user : User} {now : Instant} {bytes : TokenBytes} {session : Session}
      {lifetime : Lifetime} (answer : Except AuthError Unit)
      (right : manager.hasher.verifies (Octets.ofText credentials.password) user.password = true)
      (opened : manager.openSession user now (Token.ofBytes bytes) = .ok (session, lifetime)) :
      LogsIn manager credentials
        [⟨.findUser credentials.email, .ok user⟩, ⟨.readClock, now⟩, ⟨.drawToken, .ok bytes⟩,
          ⟨.putSession session.token session.identity lifetime, answer⟩]
        (answer.map fun _ => (session, user.id))

theorem converses_login {result : Except AuthError (Session × UserId)}
    (converses : (manager.login credentials).Converses turns result) :
    manager.LogsIn credentials turns result := by
  rw [login, Action.converses_bind_iff] at converses
  simp only [Action.converses_findUser_iff] at converses
  rcases converses with ⟨error, rfl, rfl⟩ | ⟨_, rest, user, rfl, rfl, found⟩
  · exact .unknown error
  obtain ⟨_, rest, isRight, rfl, verified, later⟩ := Action.converses_perform_bind_iff.mp found
  obtain ⟨rfl, rfl⟩ := Hasher.converses_verify verified
  -- Nothing is read, drawn or stored before the password has been found right.
  cases right : manager.hasher.verifies (Octets.ofText credentials.password) user.password with
  | false =>
      rw [right, Bool.not_false, if_pos rfl, Action.converses_logService_bind_iff,
        Action.converses_throw_bind_iff] at later
      obtain ⟨rfl, rfl⟩ := later
      exact .wrong right
  | true =>
      rw [right, Bool.not_true, if_neg Bool.false_ne_true] at later
      obtain ⟨now, _, rfl, timed⟩ :=
        (Action.converses_perform_query_bind_iff .readClock rfl).mp later
      rcases Action.converses_drawToken_bind_iff.mp timed with ⟨report, rfl, rfl⟩ |
        ⟨bytes, _, rfl, drawn⟩
      · exact .undrawn now report right
      rcases Action.converses_bind_iff.mp drawn with ⟨error, refusal, rfl⟩ |
        ⟨_, _, ⟨session, lifetime⟩, rfl, opening, issued⟩
      · obtain ⟨rfl, refused⟩ := Action.converses_settled_iff.mp refusal
        exact .unopened bytes right refused.symm
      obtain ⟨rfl, opened⟩ := Action.converses_settled_iff.mp opening
      rw [Action.converses_bind_iff] at issued
      simp only [Action.converses_putSession_iff, Action.converses_logService_bind_iff,
        Action.converses_pure_iff] at issued
      rcases issued with ⟨error, rfl, rfl⟩ | ⟨_, _, value, rfl, rfl, rfl, rfl⟩
      · exact .stored (.error error) right opened.symm
      · exact .stored (.ok ()) right opened.symm

/-- A login that succeeds has stored the session that it returns. -/
theorem LogsIn.eq_of_ok {session : Session} {id : UserId}
    (logsIn : manager.LogsIn credentials turns (.ok (session, id))) :
    ∃ user now bytes lifetime,
      turns = [⟨.findUser credentials.email, .ok user⟩, ⟨.readClock, now⟩,
        ⟨.drawToken, .ok bytes⟩,
        ⟨.putSession session.token session.identity lifetime, .ok ()⟩] ∧
      manager.hasher.verifies (Octets.ofText credentials.password) user.password = true ∧
      manager.openSession user now (Token.ofBytes bytes) = .ok (session, lifetime) ∧
      id = user.id := by
  generalize settled : Except.ok (session, id) = result at logsIn
  cases logsIn with
  | @stored user now bytes opening lifetime answer right opened =>
      cases answer with
      | error error => cases settled
      | ok value =>
          cases settled
          exact ⟨user, now, bytes, lifetime, rfl, right, opened, rfl⟩
  | _ => cases settled

/-- How a token is revoked: nobody is asked about the empty one. -/
inductive Revokes (token : String) : List Turn → Except AuthError Unit → Prop where
  | blank (blank : token.isEmpty = true) : Revokes token [] (.error .invalidToken)
  | asked (notBlank : token.isEmpty = false) (answer : Except AuthError Unit) :
      Revokes token [⟨.deleteSession token, answer⟩] answer

theorem converses_logout {result : Except AuthError Unit}
    (converses : (logout token).Converses turns result) : Revokes token turns result := by
  rw [logout] at converses
  cases blank : token.isEmpty with
  | true =>
      rw [blank, if_pos rfl] at converses
      obtain ⟨rfl, rfl⟩ := Action.converses_throw_bind_iff.mp converses
      exact .blank blank
  | false =>
      simp only [blank, Bool.false_eq_true, if_false, Action.converses_bind_iff,
        Action.converses_deleteSession_iff] at converses
      rcases converses with ⟨error, rfl, rfl⟩ | ⟨_, rest, value, rfl, rfl, logged⟩
      · exact .asked blank (.error error)
      · obtain ⟨rfl, rfl⟩ := Action.converses_logService_iff.mp logged
        exact .asked blank (.ok ())

/-- How a token is resolved: nobody is asked about the empty one. -/
inductive Resolves (token : String) : List Turn → Except AuthError Identity → Prop where
  | blank (blank : token.isEmpty = true) : Resolves token [] (.error .invalidToken)
  | asked (notBlank : token.isEmpty = false) (answer : Except AuthError Identity) :
      Resolves token [⟨.getSession token, answer⟩] answer

theorem converses_resolve {result : Except AuthError Identity}
    (converses : (resolve token).Converses turns result) : Resolves token turns result := by
  rw [resolve] at converses
  cases blank : token.isEmpty with
  | true =>
      rw [blank, if_pos rfl] at converses
      obtain ⟨rfl, rfl⟩ := Action.converses_throw_bind_iff.mp converses
      exact .blank blank
  | false =>
      rw [blank, if_neg Bool.false_ne_true, Action.converses_bind_iff] at converses
      simp only [Action.converses_getSession_iff, Action.converses_logService_bind_iff,
        Action.converses_pure_iff] at converses
      rcases converses with ⟨error, rfl, rfl⟩ | ⟨_, rest, identity, rfl, rfl, rfl, rfl⟩
      · exact .asked blank (.error error)
      · exact .asked blank (.ok identity)

/-- Whom the store names for a token, the token is resolved to. -/
theorem converses_resolve_of_asked {identity : Identity} (notBlank : token.isEmpty = false) :
    (resolve token).Converses [⟨.getSession token, .ok identity⟩] (.ok identity) := by
  rw [resolve, notBlank, if_neg Bool.false_ne_true, Action.converses_bind_iff]
  refine .inr ⟨_, [], identity, rfl, Action.converses_getSession_iff.mpr rfl, ?_⟩
  rw [Action.converses_logService_bind_iff, Action.converses_pure_iff]
  exact ⟨rfl, rfl⟩

end Manager

end SessionGate
