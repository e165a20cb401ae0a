import SessionGate.Gate
import SessionGate.Proofs.Http.Cookie
import SessionGate.Proofs.Passwords
import SessionGate.Proofs.Runs.Mirrored
import SessionGate.Proofs.Sessions.Conversations
import SessionGate.Proofs.Sessions.History
import SessionGate.Proofs.Token

/-!
# Secrets

Passwords, salts and the tokens that are issued show nowhere but where they have to. Of two runs
that differ in them alone, the log is the same word for word, and the answers and the store calls
are the same but for the tokens, which stand for each other, and for the bytes of password records,
which keep their length.
-/

namespace SessionGate

open Time

/-- Passwords that are treated alike on sight: both are empty or neither is, and both can be hashed
or neither can. -/
structure PasswordsMatch (left right : String) : Prop where
  isEmpty : left.isEmpty = right.isEmpty
  tooLong : 0xffffffff < (Octets.ofText left).length ↔ 0xffffffff < (Octets.ofText right).length

/-- How the password of a login comes out against the account that was found, if one was. -/
def Manager.verdict (manager : Manager) (password : String) : Except AuthError User → Option Bool
  | .ok user => some (manager.hasher.verifies (Octets.ofText password) user.password)
  | .error _ => none

/-! ## Operations side by side -/

namespace World.Mirrors

variable {pairs : String → String → Prop} {left right : World} {password password' : String}
  {token token' : String}

/-- Records of passwords that are treated alike have the same length. -/
theorem attempt_freshRecord (mirrored : left.Mirrors pairs right) (hasher : Hasher)
    (passwords : PasswordsMatch password password') :
    Alike pairs (OutcomesMatch fun record record' => record.redacted = record'.redacted)
      (left.attempt (hasher.freshRecord (Octets.ofText password)))
      (right.attempt (hasher.freshRecord (Octets.ofText password'))) := by
  refine ⟨?_, { mirrored with tokensGiven := mirrored.tokensGiven }⟩
  change OutcomesMatch _
    (hasher.record (Octets.ofText password) (left.random.salts left.random.saltsGiven).toList)
    (hasher.record (Octets.ofText password') (right.random.salts right.random.saltsGiven).toList)
  rw [Hasher.record_salt, Hasher.record_salt]
  by_cases long : 0xffffffff < (Octets.ofText password').length
  · rw [if_pos (passwords.tooLong.mpr long), if_pos long]
    exact .error _
  · rw [if_neg (mt passwords.tooLong.mp long), if_neg long]
    refine .ok (PasswordRecord.redacted_eq_iff.mpr ?_)
    simp [Hash.Argon2id.length_key]

theorem attempt_provision (mirrored : left.Mirrors pairs right) (manager : Manager)
    (email : String) (name : Option String) (role : Role)
    (passwords : PasswordsMatch password password') :
    EndAlike pairs (OutcomesMatch (· = ·))
      (left.attempt (manager.provision ⟨email, password, name⟩ role))
      (right.attempt (manager.provision ⟨email, password', name⟩ role)) := by
  rw [Manager.provision, Manager.provision, Hasher.freshTextRecord_eq, Hasher.freshTextRecord_eq]
  refine (mirrored.attempt_freshRecord manager.hasher passwords).endAlike.bind
    fun record record' _ _ records mirrored => ?_
  have rows : (⟨email, name, record, role⟩ : UserRow).redacted =
      (⟨email, name, record', role⟩ : UserRow).redacted := by
    rw [UserRow.redacted, UserRow.redacted, records]
  refine (mirrored.attempt_insertUser rows).endAlike.bind fun id id' _ _ ids mirrored => ?_
  subst ids
  refine (mirrored.attempt_logService _ _ _).endAlike.bind fun _ _ _ _ _ mirrored => ?_
  exact fun _ => ⟨.ok rfl, mirrored⟩

theorem attempt_register (mirrored : left.Mirrors pairs right) (manager : Manager)
    (email : String) (name : Option String) (passwords : PasswordsMatch password password') :
    EndAlike pairs (OutcomesMatch (· = ·))
      (left.attempt (manager.register ⟨email, password, name⟩))
      (right.attempt (manager.register ⟨email, password', name⟩)) := by
  have something : (⟨email, password, name⟩ : NewUser).isEmpty =
      (⟨email, password', name⟩ : NewUser).isEmpty := by
    rw [NewUser.isEmpty, NewUser.isEmpty, passwords.isEmpty]
  rw [Manager.register, Manager.register, something]
  split
  · exact fun _ => ⟨.error _, mirrored⟩
  · refine (mirrored.attempt_emailTaken email).endAlike.bind fun isTaken _ _ _ same mirrored => ?_
    subst same
    cases isTaken with
    | true =>
        refine (mirrored.attempt_logService _ _ _).endAlike.bind fun _ _ _ _ _ mirrored => ?_
        exact fun _ => ⟨.error _, mirrored⟩
    | false => exact mirrored.attempt_provision manager email name .user passwords

/-- A password is verified alike against records that are too if the verdict is the same. -/
theorem attempt_verify (mirrored : left.Mirrors pairs right) (hasher : Hasher)
    {stored stored' : PasswordRecord} (passwords : PasswordsMatch password password')
    (records : stored.redacted = stored'.redacted)
    (verdicts : hasher.verifies (Octets.ofText password) stored =
      hasher.verifies (Octets.ofText password') stored') :
    Alike pairs (OutcomesMatch (· = ·))
      (left.attempt (Action.perform (hasher.verify (Octets.ofText password) stored)))
      (right.attempt (Action.perform (hasher.verify (Octets.ofText password') stored'))) := by
  have sizes := PasswordRecord.redacted_eq_iff.mp records
  rw [Hasher.verify, Hasher.verify, Hasher.check_congr sizes passwords.tooLong verdicts, sizes]
  cases hasher.check (Octets.ofText password') stored' with
  | compared isSame => exact ⟨.ok rfl, mirrored⟩
  | malformed | failed error => exact ⟨.ok rfl, mirrored.logged _⟩

/-- Sessions for tokens that match are opened alike. -/
theorem openSession_matches (manager : Manager) {user user' : User}
    (users : user.redacted = user'.redacted) (now : Instant) (tokens : pairs token token') :
    OutcomesMatch (fun opened opened' => opened.1.Matches pairs opened'.1 ∧ opened.2 = opened'.2)
      (manager.openSession user now token) (manager.openSession user' now token') := by
  have identity : (⟨user.id, user.role⟩ : Identity) = ⟨user'.id, user'.role⟩ := by
    change (⟨user.redacted.id, user.redacted.role⟩ : Identity) = _
    rw [users]
    rfl
  rw [Manager.openSession, Manager.openSession]
  cases now.add? manager.ttl with
  | none => exact .error _
  | some expiresAt =>
      cases lasts : (expiresAt.since now).toLifetime? with
      | none =>
          simp only [lasts]
          exact .error _
      | some lifetime =>
          simp only [lasts]
          exact .ok ⟨⟨tokens, rfl, identity⟩, rfl⟩

/-- Where the verdict on a login is the same, so is whether the password is that of the account that
is found. -/
theorem attempt_findUser_of_verdicts (mirrored : left.Mirrors pairs right) (manager : Manager)
    (email : String)
    (verdicts : manager.verdict password (left.attempt (Action.findUser email)).1 =
      manager.verdict password' (right.attempt (Action.findUser email)).1) :
    Alike pairs
      (OutcomesMatch fun user user' => user.redacted = user'.redacted ∧
        manager.hasher.verifies (Octets.ofText password) user.password =
          manager.hasher.verifies (Octets.ofText password') user'.password)
      (left.attempt (Action.findUser email)) (right.attempt (Action.findUser email)) := by
  obtain ⟨outcomes, worlds⟩ := mirrored.attempt_findUser email
  refine ⟨?_, worlds⟩
  generalize (left.attempt (Action.findUser email)).1 = outcome at outcomes verdicts ⊢
  generalize (right.attempt (Action.findUser email)).1 = outcome' at outcomes verdicts ⊢
  cases outcomes with
  | ok users => exact .ok ⟨users, Option.some.inj verdicts⟩
  | error error => exact .error error

theorem attempt_login (matching : IsMatching pairs) (mirrored : left.Mirrors pairs right)
    (manager : Manager) (email : String) (passwords : PasswordsMatch password password')
    (verdicts : manager.verdict password (left.attempt (Action.findUser email)).1 =
      manager.verdict password' (right.attempt (Action.findUser email)).1) :
    EndAlike pairs
      (OutcomesMatch fun opened opened' =>
        opened.1.Matches pairs opened'.1 ∧ opened.2 = opened'.2)
      (left.attempt (manager.login ⟨email, password⟩))
      (right.attempt (manager.login ⟨email, password'⟩)) := by
  rw [Manager.login, Manager.login]
  refine (mirrored.attempt_findUser_of_verdicts manager email verdicts).endAlike.bind
    fun user user' _ _ accounts mirrored => ?_
  obtain ⟨users, same⟩ := accounts
  have ids : user.id = user'.id := (congrArg User.id users :)
  have records : user.password.redacted = user'.password.redacted :=
    (congrArg User.password users :)
  refine (mirrored.attempt_verify manager.hasher passwords records same).endAlike.bind
    fun isRight _ _ _ same mirrored => ?_
  subst same
  rw [ids]
  cases isRight with
  | false =>
      refine (mirrored.attempt_logService _ _ _).endAlike.bind fun _ _ _ _ _ mirrored => ?_
      exact fun _ => ⟨.error _, mirrored⟩
  | true =>
      simp only [Bool.not_true, Bool.false_eq_true, if_false]
      refine mirrored.attempt_readClock.endAlike.bind fun now _ _ _ same mirrored => ?_
      subst same
      -- The tokens that are drawn here match because all do that have been drawn in the end.
      refine mirrored.attempt_drawToken.bind fun bytes bytes' _ _ tokens mirrored => ?_
      refine EndAlike.bind (fun _ => ⟨openSession_matches manager users now tokens, mirrored⟩)
        fun opened opened' _ _ alike mirrored => ?_
      obtain ⟨session, lifetime⟩ := opened
      obtain ⟨session', lifetime'⟩ := opened'
      obtain ⟨sessions, lifetimes⟩ := alike
      obtain rfl : lifetime = lifetime' := lifetimes
      dsimp only
      rw [sessions.identity, sessions.expiresAt, matching.hint sessions.token]
      refine (mirrored.attempt_putSession matching sessions.token _ _).endAlike.bind
        fun _ _ _ _ _ mirrored => ?_
      refine (mirrored.attempt_logService _ _ _).endAlike.bind fun _ _ _ _ _ mirrored => ?_
      exact fun _ => ⟨.ok ⟨sessions, rfl⟩, mirrored⟩

theorem attempt_logout (matching : IsMatching pairs) (mirrored : left.Mirrors pairs right)
    (tokens : pairs token token') :
    EndAlike pairs (OutcomesMatch (· = ·)) (left.attempt (Manager.logout token))
      (right.attempt (Manager.logout token')) := by
  rw [Manager.logout, Manager.logout, matching.isEmpty tokens, matching.hint tokens]
  split
  · exact fun _ => ⟨.error _, mirrored⟩
  · refine (mirrored.attempt_deleteSession matching tokens).endAlike.bind
      fun _ _ _ _ _ mirrored => ?_
    exact (mirrored.attempt_logService _ _ _).endAlike

theorem attempt_resolve (matching : IsMatching pairs) (mirrored : left.Mirrors pairs right)
    (tokens : pairs token token') :
    EndAlike pairs (OutcomesMatch (· = ·)) (left.attempt (Manager.resolve token))
      (right.attempt (Manager.resolve token')) := by
  rw [Manager.resolve, Manager.resolve, matching.isEmpty tokens]
  split
  · exact fun _ => ⟨.error _, mirrored⟩
  · refine (mirrored.attempt_getSession matching tokens).endAlike.bind
      fun identity _ _ _ same mirrored => ?_
    subst same
    refine (mirrored.attempt_logService _ _ _).endAlike.bind fun _ _ _ _ _ mirrored => ?_
    exact fun _ => ⟨.ok rfl, mirrored⟩

theorem attempt_checkExpiry (matching : IsMatching pairs) (mirrored : left.Mirrors pairs right)
    (tokens : pairs token token') (expires : Option Instant) :
    EndAlike pairs (OutcomesMatch (· = ·)) (left.attempt (Gate.checkExpiry ⟨token, expires⟩))
      (right.attempt (Gate.checkExpiry ⟨token', expires⟩)) := by
  rw [Gate.checkExpiry, Gate.checkExpiry]
  cases expires with
  | none => exact fun _ => ⟨.ok rfl, mirrored⟩
  | some expires =>
      refine mirrored.attempt_readClock.endAlike.bind fun now _ _ _ same mirrored => ?_
      subst same
      dsimp only
      rw [matching.hint tokens]
      split
      · refine (mirrored.attempt_logService _ _ _).endAlike.bind fun _ _ _ _ _ mirrored => ?_
        exact fun _ => ⟨.error _, mirrored⟩
      · exact fun _ => ⟨.ok rfl, mirrored⟩

theorem attempt_authenticate (matching : IsMatching pairs) (mirrored : left.Mirrors pairs right)
    (tokens : pairs token token') (expires : Option Instant) :
    EndAlike pairs (OutcomesMatch (· = ·))
      (left.attempt (Gate.authenticate (some ⟨token, expires⟩)))
      (right.attempt (Gate.authenticate (some ⟨token', expires⟩))) := by
  rw [Gate.authenticate, Gate.authenticate]
  refine (mirrored.attempt_checkExpiry matching tokens expires).bind fun _ _ _ _ _ mirrored => ?_
  refine (mirrored.attempt_resolve matching tokens).bind fun identity _ _ _ same mirrored => ?_
  subst same
  split
  · exact fun _ => ⟨.error _, mirrored⟩
  · exact fun _ => ⟨.ok rfl, mirrored⟩

/-- Roles are checked alike, for they are no secret. -/
theorem attempt_requireRole (mirrored : left.Mirrors pairs right) (identity : Identity)
    (required : Role) :
    Alike pairs (OutcomesMatch (· = ·)) (left.attempt (Gate.requireRole identity required))
      (right.attempt (Gate.requireRole identity required)) := by
  rw [Gate.requireRole]
  split
  · exact ⟨.error _, mirrored.logged _⟩
  · exact ⟨.ok rfl, mirrored⟩

end World.Mirrors

/-! ## Acts side by side -/

/-- Two acts that differ only in passwords that are treated alike, in tokens that stand for each
other, and in the bytes of a password record. Requests are left aside. -/
inductive Act.Matches (pairs : String → String → Prop) : Act → Act → Prop where
  | register (manager : Manager) (email : String) (name : Option String)
      {password password' : String} (passwords : PasswordsMatch password password') :
      Matches pairs (.made (.register manager ⟨email, password, name⟩))
        (.made (.register manager ⟨email, password', name⟩))
  | provision (manager : Manager) (email : String) (name : Option String) (role : Role)
      {password password' : String} (passwords : PasswordsMatch password password') :
      Matches pairs (.made (.provision manager ⟨email, password, name⟩ role))
        (.made (.provision manager ⟨email, password', name⟩ role))
  | login (manager : Manager) (email : String) {password password' : String}
      (passwords : PasswordsMatch password password') :
      Matches pairs (.made (.login manager ⟨email, password⟩))
        (.made (.login manager ⟨email, password'⟩))
  | logout {token token' : String} (tokens : pairs token token') :
      Matches pairs (.made (.logout token)) (.made (.logout token'))
  | resolve {token token' : String} (tokens : pairs token token') :
      Matches pairs (.made (.resolve token)) (.made (.resolve token'))
  | authenticate {token token' : String} (tokens : pairs token token')
      (expires : Option Instant) :
      Matches pairs (.made (.authenticate (some ⟨token, expires⟩)))
        (.made (.authenticate (some ⟨token', expires⟩)))
  | authenticateNobody : Matches pairs (.made (.authenticate none)) (.made (.authenticate none))
  | sweep : Matches pairs (.made .sweep) (.made .sweep)
  | findUser (email : String) : Matches pairs (.findUser email) (.findUser email)
  | insertUser {row row' : UserRow} (rows : row.redacted = row'.redacted) :
      Matches pairs (.insertUser row) (.insertUser row')
  | setRole (id : UserId) (role : Role) : Matches pairs (.setRole id role) (.setRole id role)
  | putSession {token token' : String} (tokens : pairs token token') (identity : Identity)
      (lifetime : Lifetime) :
      Matches pairs (.putSession token identity lifetime) (.putSession token' identity lifetime)
  | getSession {token token' : String} (tokens : pairs token token') :
      Matches pairs (.getSession token) (.getSession token')
  | deleteSession {token token' : String} (tokens : pairs token token') :
      Matches pairs (.deleteSession token) (.deleteSession token')
  | setEntry {key key' : String} (keys : pairs key key') (value : Octets)
      (lifetime : Option Lifetime) :
      Matches pairs (.setEntry key value lifetime) (.setEntry key' value lifetime)
  | getEntry {key key' : String} (keys : pairs key key') :
      Matches pairs (.getEntry key) (.getEntry key')
  | deleteEntry {key key' : String} (keys : pairs key key') :
      Matches pairs (.deleteEntry key) (.deleteEntry key')
  | countEntries : Matches pairs .countEntries .countEntries
  | setClock (now : Instant) : Matches pairs (.setClock now) (.setClock now)
  | advance (span : Span) : Matches pairs (.advance span) (.advance span)

/-- Two answers that differ only in the token of a session that is issued, or in the record of an
account that is found. -/
def Act.AnswersMatch (pairs : String → String → Prop) :
    (act act' : Act) → act.Answer → act'.Answer → Prop
  | .made (.login _ _), .made (.login _ _), answer, answer' =>
      OutcomesMatch (fun opened opened' => opened.1.Matches pairs opened'.1 ∧ opened.2 = opened'.2)
        answer answer'
  | .findUser _, .findUser _, answer, answer' =>
      OutcomesMatch (fun user user' => user.redacted = user'.redacted) answer answer'
  | _, _, answer, answer' => HEq answer answer'

/-- Two exchanges whose acts and answers match. -/
structure Exchange.Matches (pairs : String → String → Prop) (left right : Exchange) : Prop where
  acts : left.1.Matches pairs right.1
  answers : Act.AnswersMatch pairs left.1 right.1 left.2 right.2

/-- How the password comes out if the act is a login that finds an account. -/
def Act.verdict : Act → World → Option Bool
  | .made (.login manager credentials), world =>
      manager.verdict credentials.password (world.attempt (Action.findUser credentials.email)).1
  | _, _ => none

namespace World

variable {pairs : String → String → Prop} {left right : World}

/-- How the passwords of all logins of a run come out. -/
def verdicts (world : World) : List Act → List (Option Bool)
  | [] => []
  | act :: acts => act.verdict world :: (act.perform world).2.verdicts acts

/-- Matching acts end alike in worlds that mirror each other. -/
theorem Mirrors.perform {act act' : Act} (matching : IsMatching pairs)
    (mirrored : left.Mirrors pairs right) (acts : act.Matches pairs act')
    (verdicts : act.verdict left = act'.verdict right) :
    EndAlike pairs (Act.AnswersMatch pairs act act') (act.perform left) (act'.perform right) := by
  -- Nearly all answers are the same ones.
  have same {α : Type} {ended ended' : Except AuthError α × World}
      (alike : EndAlike pairs (OutcomesMatch (· = ·)) ended ended') :
      EndAlike pairs (fun answer answer' => HEq answer answer') ended ended' :=
    fun matched => (alike matched).mono fun outcomes => heq_of_eq outcomes.eq
  cases acts with
  | register manager email name passwords =>
      exact same (mirrored.attempt_register manager email name passwords)
  | provision manager email name role passwords =>
      exact same (mirrored.attempt_provision manager email name role passwords)
  | login manager email passwords =>
      exact mirrored.attempt_login matching manager email passwords verdicts
  | logout tokens => exact same (mirrored.attempt_logout matching tokens)
  | resolve tokens => exact same (mirrored.attempt_resolve matching tokens)
  | authenticate tokens expires =>
      exact same (mirrored.attempt_authenticate matching tokens expires)
  | authenticateNobody => exact fun _ => ⟨.rfl, mirrored⟩
  | sweep => exact (mirrored.sweep.mono heq_of_eq).endAlike
  | findUser email => exact (mirrored.findUser email).endAlike
  | insertUser rows => exact same (mirrored.insertUser rows).endAlike
  | setRole id role => exact same (mirrored.setRole id role).endAlike
  | putSession tokens identity lifetime =>
      exact same (mirrored.putSession matching tokens identity lifetime).endAlike
  | getSession tokens => exact same (mirrored.getSession matching tokens).endAlike
  | deleteSession tokens => exact same (mirrored.deleteSession matching tokens).endAlike
  | setEntry keys value lifetime =>
      exact same (mirrored.setEntry matching keys value lifetime).endAlike
  | getEntry keys => exact ((mirrored.getEntry matching keys).mono heq_of_eq).endAlike
  | deleteEntry keys => exact ((mirrored.deleteEntry matching keys).mono heq_of_eq).endAlike
  | countEntries => exact fun _ => ⟨heq_of_eq mirrored.sessions.size, mirrored⟩
  | setClock now => exact fun _ => ⟨.rfl, { mirrored with now := rfl }⟩
  | advance span =>
      intro _
      rw [Act.perform, Act.perform, World.advance, World.advance, mirrored.now]
      cases right.now.add? span with
      | none => exact ⟨.rfl, mirrored⟩
      | some later => exact ⟨.rfl, { mirrored with now := rfl }⟩

/-- Runs of matching acts end alike, answer by answer. -/
theorem Mirrors.enact {acts acts' : List Act} (matching : IsMatching pairs)
    (mirrored : left.Mirrors pairs right) (same : List.Forall₂ (Act.Matches pairs) acts acts')
    (verdicts : left.verdicts acts = right.verdicts acts')
    (drawn : DrawsMatch pairs (left.enact acts) (right.enact acts')) :
    (left.enact acts).Mirrors pairs (right.enact acts') ∧
      List.Forall₂ (Exchange.Matches pairs) (left.exchanges acts) (right.exchanges acts') := by
  induction same generalizing left right with
  | nil => exact ⟨mirrored, .nil⟩
  | @cons act act' acts acts' first rest ih =>
      obtain ⟨verdict, later⟩ := List.cons.inj verdicts
      obtain ⟨answers, after⟩ := mirrored.perform matching first verdict
        (drawn.of_drawsOn (drawsOn_enact acts _) (drawsOn_enact acts' _))
      obtain ⟨ended, exchanged⟩ := ih after later drawn
      exact ⟨ended, .cons ⟨first, answers⟩ exchanged⟩

end World

/-! ## Tokens that stand for each other -/

namespace World

variable {left right : World} {token token' : String}

def HasDrawn (world : World) (token : String) : Prop :=
  ∃ index < world.random.tokensGiven, token = Token.ofBytes (world.random.tokens index)

/-- Tokens that two worlds have drawn at the same point stand for each other, and a token that
neither has drawn stands for itself. -/
def StandsFor (left right : World) (token token' : String) : Prop :=
  (∃ index < left.random.tokensGiven, index < right.random.tokensGiven ∧
    token = Token.ofBytes (left.random.tokens index) ∧
    token' = Token.ofBytes (right.random.tokens index)) ∨
  token = token' ∧ ¬ left.HasDrawn token ∧ ¬ right.HasDrawn token'

/-- Tokens drawn at the same point have the same hint. -/
def HintsAgree (left right : World) : Prop :=
  ∀ index < left.random.tokensGiven, index < right.random.tokensGiven →
    (Token.ofBytes (left.random.tokens index)).toList.take Token.hintSize =
      (Token.ofBytes (right.random.tokens index)).toList.take Token.hintSize

theorem drawsMatch_standsFor (left right : World) :
    DrawsMatch (left.StandsFor right) left right :=
  fun index drawn drawn' => .inl ⟨index, drawn, drawn', rfl, rfl⟩

theorem StandsFor.symm (same : left.StandsFor right token token') :
    right.StandsFor left token' token := by
  rcases same with ⟨index, drawn, drawn', here, there⟩ | ⟨rfl, undrawn, undrawn'⟩
  · exact .inl ⟨index, drawn', drawn, there, here⟩
  · exact .inr ⟨rfl, undrawn', undrawn⟩

/-- A world that has drawn no token twice has drawn equal tokens at the same point. -/
theorem index_eq_of_ofBytes_eq (fresh : left.core.DrawsFresh) {first second : Nat}
    (drawn : first < left.random.tokensGiven) (drawn' : second < left.random.tokensGiven)
    (same : Token.ofBytes (left.random.tokens first) = Token.ofBytes (left.random.tokens second)) :
    first = second := by
  rcases Nat.lt_trichotomy first second with before | equal | after
  · exact absurd same (fresh first second before drawn')
  · exact equal
  · exact absurd same.symm (fresh second first after drawn)

theorem StandsFor.right_unique (fresh : left.core.DrawsFresh) {other : String}
    (first : left.StandsFor right token token') (second : left.StandsFor right token other) :
    token' = other := by
  rcases first with ⟨index, drawn, _, here, rfl⟩ | ⟨rfl, undrawn, -⟩ <;>
    rcases second with ⟨index', drawn', _, here', rfl⟩ | ⟨rfl, undrawn', -⟩
  · rw [index_eq_of_ofBytes_eq fresh drawn drawn' (here.symm.trans here')]
  · exact absurd ⟨index, drawn, here⟩ undrawn'
  · exact absurd ⟨index', drawn', here'⟩ undrawn
  · rfl

theorem isMatching_standsFor (fresh : left.core.DrawsFresh) (fresh' : right.core.DrawsFresh)
    (hints : left.HintsAgree right) : IsMatching (left.StandsFor right) where
  unique := ⟨fun _ _ _ first second => first.symm.right_unique fresh' second.symm,
    fun _ _ _ first second => first.right_unique fresh second⟩
  isEmpty := by
    rintro _ _ (⟨index, -, -, rfl, rfl⟩ | ⟨rfl, -⟩)
    · rw [Token.isEmpty_ofBytes, Token.isEmpty_ofBytes]
    · rfl
  hint := by
    rintro _ _ (⟨index, drawn, drawn', rfl, rfl⟩ | ⟨rfl, -⟩)
    · rw [Token.hint_ofBytes, Token.hint_ofBytes, hints index drawn drawn']
    · rfl

/-! ## Runs that differ in secrets -/

/-- An empty world whose stores are in given conditions. -/
def startIn (userStore : UserStoreCondition) (sessionStore : SessionStoreCondition) (now : Instant)
    (salts : Nat → Salt) (tokens : Nat → TokenBytes) : World :=
  { start now salts tokens with userStore, sessionStore }

/-- Nothing in an empty world gives away its random source. -/
theorem mirrors_startIn (pairs : String → String → Prop) (userStore : UserStoreCondition)
    (sessionStore : SessionStoreCondition) (now : Instant) (salts salts' : Nat → Salt)
    (tokens tokens' : Nat → TokenBytes) :
    (startIn userStore sessionStore now salts tokens).Mirrors pairs
      (startIn userStore sessionStore now salts' tokens') :=
  ⟨rfl, rfl, rfl, rfl, rfl, .nil, rfl, .nil⟩

/-- Two runs differ only in secrets: in passwords on which the verdicts are the same, in salts, and
in what is behind the hints of tokens, none of which is drawn twice in a run. -/
structure DifferInSecrets (left right : World) (acts acts' : List Act) : Prop where
  fresh : (left.enact acts).core.DrawsFresh
  fresh' : (right.enact acts').core.DrawsFresh
  hints : (left.enact acts).HintsAgree (right.enact acts')
  verdicts : left.verdicts acts = right.verdicts acts'
  acts : List.Forall₂ (Act.Matches ((left.enact acts).StandsFor (right.enact acts'))) acts acts'

/-- Two runs look the same, but for tokens that stand for each other and for the bytes of password
records. They have drawn as many tokens, so every token that is drawn has its counterpart; and what
is logged afterwards about who may do what is the same too. -/
structure LookTheSame (left right : World) (acts acts' : List Act) : Prop where
  draws : (left.enact acts).random.tokensGiven = (right.enact acts').random.tokensGiven
  events : (left.enact acts).events = (right.enact acts').events
  calls : List.Forall₂ (Question.Matches ((left.enact acts).StandsFor (right.enact acts')))
    (left.enact acts).calls (right.enact acts').calls
  exchanges : List.Forall₂ (Exchange.Matches ((left.enact acts).StandsFor (right.enact acts')))
    (left.exchanges acts) (right.exchanges acts')
  roleChecks : ∀ identity required,
    ((left.enact acts).attempt (Gate.requireRole identity required)).1 =
        ((right.enact acts').attempt (Gate.requireRole identity required)).1 ∧
      ((left.enact acts).attempt (Gate.requireRole identity required)).2.events =
        ((right.enact acts').attempt (Gate.requireRole identity required)).2.events

/-- Runs of a service that differ only in secrets look the same. -/
theorem secrets_show_nowhere (userStore : UserStoreCondition)
    (sessionStore : SessionStoreCondition) (now : Instant) {salts salts' : Nat → Salt}
    {tokens tokens' : Nat → TokenBytes} {acts acts' : List Act}
    (differ : DifferInSecrets (startIn userStore sessionStore now salts tokens)
      (startIn userStore sessionStore now salts' tokens') acts acts') :
    LookTheSame (startIn userStore sessionStore now salts tokens)
      (startIn userStore sessionStore now salts' tokens') acts acts' := by
  have matching := isMatching_standsFor differ.fresh differ.fresh' differ.hints
  obtain ⟨mirrored, exchanged⟩ :=
    (mirrors_startIn _ userStore sessionStore now salts salts' tokens tokens').enact matching
      differ.acts differ.verdicts (drawsMatch_standsFor _ _)
  refine ⟨mirrored.tokensGiven, mirrored.events, mirrored.calls, exchanged,
    fun identity required => ?_⟩
  obtain ⟨outcomes, checked⟩ := mirrored.attempt_requireRole identity required
  exact ⟨outcomes.eq, checked.events⟩

/-! ## A first visit -/

/-- A new service whose random source always gives the same. -/
def monotonous (filling : UInt8) (bytes : TokenBytes) : World :=
  startIn .sound .sound .epoch (fun _ => .replicate 8 filling) fun _ => bytes

/-- An account is opened, its owner logs in, and a token is resolved. -/
def visit (password token : String) : List Act :=
  [.made (.provision .cheap ⟨"a@b.c", password, none⟩ .user),
    .made (.login .cheap ⟨"a@b.c", password⟩), .made (.resolve token)]

section FirstVisit

variable {password : String} {filling : UInt8} {bytes : TokenBytes} {world after : World}
  {user : User}

/-- The answer to the opening of the first account tells whether its password can be hashed. -/
theorem attempt_provision_monotonous (filling : UInt8) (bytes : TokenBytes) (password : String) :
    ((monotonous filling bytes).attempt
      (Manager.cheap.provision ⟨"a@b.c", password, none⟩ .user)).1 =
      if 0xffffffff < (Octets.ofText password).length then
        .error (.internal (.hashing .passwordTooLong))
      else .ok 1 := by
  have answered := congrArg Prod.fst (attempt_core
    (Manager.cheap.provision ⟨"a@b.c", password, none⟩ .user) (monotonous filling bytes))
  rw [Core.attempt_provision rfl, Hasher.record_salt] at answered
  refine answered.symm.trans ?_
  by_cases long : 0xffffffff < (Octets.ofText password).length
  · rw [if_pos long, if_pos long]
  · rw [if_neg long, if_neg long]
    rfl

/-- Opening the first account leaves a record of its password, and draws no token. -/
theorem attempt_provision_first (short : ¬ 0xffffffff < (Octets.ofText password).length)
    (provisioned : ((monotonous filling bytes).attempt
      (Manager.cheap.provision ⟨"a@b.c", password, none⟩ .user)).2 = after) :
    after.core.IsSound ∧ after.now = .epoch ∧ after.random.tokensGiven = 0 ∧
      ∃ user, after.users.find? "a@b.c" = some user ∧
        Manager.cheap.hasher.verifies (Octets.ofText password) user.password = true := by
  have split := attempt_core (Manager.cheap.provision ⟨"a@b.c", password, none⟩ .user)
    (monotonous filling bytes)
  have accepted := attempt_provision_monotonous filling bytes password
  rw [if_neg short] at accepted
  have opened : (monotonous filling bytes).core.attempt
      (Manager.cheap.provision ⟨"a@b.c", password, none⟩ .user) = (.ok 1, after.core) :=
    Prod.ext ((congrArg Prod.fst split).trans accepted)
      ((congrArg Prod.snd split).trans (congrArg World.core provisioned))
  obtain ⟨record, found, right, left⟩ := Core.provision_ok rfl opened
  refine ⟨?_, congrArg Core.now left, congrArg (·.random.tokensGiven) left, _, found, right⟩
  rw [left]
  exact ⟨rfl, rfl⟩

theorem attempt_login_first (sound : world.core.IsSound) (now : world.now = .epoch)
    (found : world.users.find? "a@b.c" = some user)
    (right : Manager.cheap.hasher.verifies (Octets.ofText password) user.password = true)
    (entered : (world.attempt (Manager.cheap.login ⟨"a@b.c", password⟩)).2 = after) :
    after.core.IsSound ∧ after.random.tokensGiven = world.random.tokensGiven + 1 := by
  have plain : world.now.isLeap = false := congrArg Instant.isLeap now
  have canOpen : Manager.cheap.CanOpen world.now := now ▸ ⟨_, rfl, by decide +kernel⟩
  obtain ⟨⟨session, lifetime⟩, opened⟩ : ∃ opened,
      Manager.cheap.openSession user world.now world.core.nextToken = .ok opened :=
    Manager.exists_openSession_iff.mpr canOpen
  have notBlank : session.token.isEmpty = false :=
    (Manager.eq_of_openSession opened).1 ▸ Token.isEmpty_ofBytes _
  have logged := @Core.login_ok world.core .cheap ⟨"a@b.c", password⟩ user session lifetime sound
    plain found right opened notBlank
  rw [attempt_core, entered] at logged
  obtain ⟨-, left⟩ := Prod.mk.inj logged
  exact ⟨left ▸ ⟨sound.users, sound.sessions⟩, congrArg (·.random.tokensGiven) left⟩

theorem attempt_findUser_of_found {email : String} (sound : world.userStore = .sound)
    (found : world.users.find? email = some user) :
    (world.attempt (Action.findUser email)).1 = .ok user := by
  have asked := congrArg Prod.fst (@Core.attempt_findUser world.core sound email)
  rw [attempt_core] at asked
  refine asked.trans ?_
  rw [show world.core.users.find? email = some user from found]

theorem random_attempt_resolve (sound : world.sessionStore = .sound) (token : String) :
    (world.attempt (Manager.resolve token)).2.random = world.random := by
  have resolved := congrArg (fun ended => ended.2.random)
    (@Core.attempt_resolve_of_sound world.core sound token)
  rw [attempt_core] at resolved
  refine resolved.trans ?_
  cases token.isEmpty <;> rfl

/-- The first visitor is let in with the first token that is drawn. -/
theorem first_visit (filling : UInt8) (bytes : TokenBytes)
    (short : ¬ 0xffffffff < (Octets.ofText password).length) (token : String) :
    (monotonous filling bytes).verdicts (visit password token) = [none, some true, none] ∧
      ((monotonous filling bytes).enact (visit password token)).random.tokens = (fun _ => bytes) ∧
      ((monotonous filling bytes).enact (visit password token)).random.tokensGiven = 1 := by
  obtain ⟨sound, now, undrawn, user, found, right⟩ :=
    @attempt_provision_first password filling bytes _ short rfl
  obtain ⟨enteredSound, drawn⟩ := attempt_login_first sound now found right rfl
  refine ⟨?_, (drawsOn_enact (visit password token) (monotonous filling bytes)).tokens, ?_⟩
  · have verdict := congrArg (Manager.cheap.verdict password)
      (attempt_findUser_of_found sound.users found)
    rw [Manager.verdict, right] at verdict
    exact congrArg (fun verdict => [none, verdict, none]) verdict
  · have resolved := random_attempt_resolve enteredSound.sessions token
    exact (congrArg RandomSource.tokensGiven resolved).trans (drawn.trans (by rw [undrawn]))

end FirstVisit

theorem drawsFresh_of_tokensGiven {world : World} (once : world.random.tokensGiven ≤ 1) :
    world.core.DrawsFresh := by
  intro earlier later before drawn
  have below : later < 1 := Nat.lt_of_lt_of_le drawn once
  omega

/-- A token that differs from the one of zeros, but not in its hint. -/
def otherToken : TokenBytes :=
  (Vector.replicate 32 0).set 31 1

/-- Neither the password of the first visitor nor the token that is issued shows. -/
theorem first_visits_look_the_same :
    DifferInSecrets (monotonous 0 (.replicate 32 0)) (monotonous 1 otherToken)
        (visit "b" (Token.ofBytes (.replicate 32 0)))
        (visit "hush" (Token.ofBytes otherToken)) ∧
      LookTheSame (monotonous 0 (.replicate 32 0)) (monotonous 1 otherToken)
        (visit "b" (Token.ofBytes (.replicate 32 0)))
        (visit "hush" (Token.ofBytes otherToken)) := by
  obtain ⟨verdicts, tokens, given⟩ := @first_visit "b" 0 (.replicate 32 0) (by decide)
    (Token.ofBytes (.replicate 32 0))
  obtain ⟨verdicts', tokens', given'⟩ := @first_visit "hush" 1 otherToken (by decide)
    (Token.ofBytes otherToken)
  have hint : (Token.ofBytes (.replicate 32 0)).toList.take Token.hintSize =
      (Token.ofBytes otherToken).toList.take Token.hintSize := by decide
  have passwords : PasswordsMatch "b" "hush" := ⟨by decide, by decide⟩
  have differ : DifferInSecrets (monotonous 0 (.replicate 32 0)) (monotonous 1 otherToken)
      (visit "b" (Token.ofBytes (.replicate 32 0)))
      (visit "hush" (Token.ofBytes otherToken)) :=
    { fresh := drawsFresh_of_tokensGiven (Nat.le_of_eq given)
      fresh' := drawsFresh_of_tokensGiven (Nat.le_of_eq given')
      hints := fun _ _ _ => by rw [tokens, tokens', hint]
      verdicts := verdicts.trans verdicts'.symm
      acts := .cons (.provision _ _ _ _ passwords) <| .cons (.login _ _ passwords) <|
        .cons (.resolve (.inl ⟨0, given ▸ Nat.one_pos, given' ▸ Nat.one_pos,
          by rw [tokens], by rw [tokens']⟩)) .nil }
  exact ⟨differ, secrets_show_nowhere .sound .sound .epoch differ⟩

/-! ## A password that is too long -/

/-- An account is opened with a password, and that is all. -/
def opening (password : String) : List Act :=
  [.made (.provision .cheap ⟨"a@b.c", password, none⟩ .user)]

theorem core_enact_opening (password : String) :
    ((monotonous 0 (.replicate 32 0)).enact (opening password)).core =
      ((monotonous 0 (.replicate 32 0)).core.attempt
        (Manager.cheap.provision ⟨"a@b.c", password, none⟩ .user)).2 :=
  (congrArg Prod.snd (attempt_core (Manager.cheap.provision ⟨"a@b.c", password, none⟩ .user)
    (monotonous 0 (.replicate 32 0)))).symm

/-- No token is drawn for a new account, whatever its password. -/
theorem tokensGiven_enact_opening (password : String) :
    ((monotonous 0 (.replicate 32 0)).enact (opening password)).random.tokensGiven = 0 := by
  have left := congrArg (·.random.tokensGiven) (core_enact_opening password)
  rw [Core.attempt_provision rfl, Hasher.record_salt] at left
  refine left.trans ?_
  by_cases long : 0xffffffff < (Octets.ofText password).length
  · rw [if_pos long]
    rfl
  · rw [if_neg long]
    rfl

theorem verdicts_opening (world : World) (password : String) :
    world.verdicts (opening password) = [none] :=
  rfl

theorem not_lookTheSame_opening {short long : String}
    (hashable : ¬ 0xffffffff < (Octets.ofText short).length)
    (overlong : 0xffffffff < (Octets.ofText long).length) :
    ¬ LookTheSame (monotonous 0 (.replicate 32 0)) (monotonous 0 (.replicate 32 0)) (opening short)
      (opening long) := by
  intro same
  have opened := attempt_provision_monotonous 0 (.replicate 32 0) short
  rw [if_neg hashable] at opened
  have refused := attempt_provision_monotonous 0 (.replicate 32 0) long
  rw [if_pos overlong] at refused
  have exchanged := same.exchanges
  cases exchanged with
  | cons first rest => cases opened.symm.trans ((eq_of_heq first.answers).trans refused)

/-- A password that is too long to be hashed shows, although it is not empty, no token is drawn and
nobody logs in: where another one opens an account, it is told to be too long. -/
theorem overlong_password_shows :
    ("b".isEmpty = false ∧ (Text.letters (2 ^ 32)).isEmpty = false) ∧
    (((monotonous 0 (.replicate 32 0)).enact (opening "b")).random.tokensGiven = 0 ∧
      ((monotonous 0 (.replicate 32 0)).enact
        (opening (Text.letters (2 ^ 32)))).random.tokensGiven = 0 ∧
      (monotonous 0 (.replicate 32 0)).verdicts (opening "b") =
        (monotonous 0 (.replicate 32 0)).verdicts (opening (Text.letters (2 ^ 32)))) ∧
    (((monotonous 0 (.replicate 32 0)).attempt
        (Manager.cheap.provision ⟨"a@b.c", "b", none⟩ .user)).1 = .ok 1 ∧
      ((monotonous 0 (.replicate 32 0)).attempt
        (Manager.cheap.provision ⟨"a@b.c", Text.letters (2 ^ 32), none⟩ .user)).1 =
          .error (.internal (.hashing .passwordTooLong))) ∧
    ¬ LookTheSame (monotonous 0 (.replicate 32 0)) (monotonous 0 (.replicate 32 0)) (opening "b")
      (opening (Text.letters (2 ^ 32))) := by
  have hashable : ¬ 0xffffffff < (Octets.ofText "b").length := by decide
  have overlong : 0xffffffff < (Octets.ofText (Text.letters (2 ^ 32))).length := by
    rw [Octets.length_ofText_letters]
    decide
  refine ⟨⟨by decide, Text.isEmpty_letters (by decide)⟩,
    ⟨tokensGiven_enact_opening _, tokensGiven_enact_opening _, ?_⟩, ⟨?_, ?_⟩,
    not_lookTheSame_opening hashable overlong⟩
  · rw [verdicts_opening, verdicts_opening]
  · rw [attempt_provision_monotonous, if_neg hashable]
  · rw [attempt_provision_monotonous, if_pos overlong]

end World

end SessionGate
