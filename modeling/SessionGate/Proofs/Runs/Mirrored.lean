import SessionGate.Proofs.Runs.Act
import SessionGate.Proofs.Store.Matching

/-!
# Worlds that mirror each other

Two worlds mirror each other when they differ only in password records, in tokens that stand for
each other, and in what their random sources hold. Every operation keeps them so if it is given
passwords that are judged alike, and what it answers, logs and asks the stores differs in nothing
else. An operation on both worlds is followed side by side, question by question.
-/

namespace SessionGate

open Time

/-- Tokens of two runs that stand for each other: one for one, and nothing that is refused or
logged tells them apart. -/
structure IsMatching (pairs : String → String → Prop) : Prop where
  unique : Relator.BiUnique pairs
  isEmpty : ∀ {token token'}, pairs token token' → token.isEmpty = token'.isEmpty
  hint : ∀ {token token'}, pairs token token' → Token.hint token = Token.hint token'

/-- Two store calls that differ only in tokens and in the bytes of a password record. -/
inductive Question.Matches (pairs : String → String → Prop) : Question → Question → Prop where
  | findUser (email : String) : Matches pairs (.findUser email) (.findUser email)
  | emailTaken (email : String) : Matches pairs (.emailTaken email) (.emailTaken email)
  | insertUser {row row' : UserRow} (rows : row.redacted = row'.redacted) :
      Matches pairs (.insertUser row) (.insertUser row')
  | putSession {token token' : String} (tokens : pairs token token') (identity : Identity)
      (lifetime : Lifetime) :
      Matches pairs (.putSession token identity lifetime) (.putSession token' identity lifetime)
  | deleteSession {token token' : String} (tokens : pairs token token') :
      Matches pairs (.deleteSession token) (.deleteSession token')
  | getSession {token token' : String} (tokens : pairs token token') :
      Matches pairs (.getSession token) (.getSession token')

/-- Two sessions that differ only in their tokens. -/
structure Session.Matches (pairs : String → String → Prop) (left right : Session) : Prop where
  token : pairs left.token right.token
  expiresAt : left.expiresAt = right.expiresAt
  identity : left.identity = right.identity

/-- The same failure, or values that are related. -/
inductive OutcomesMatch {α β : Type} (values : α → β → Prop) :
    Except AuthError α → Except AuthError β → Prop where
  | ok {value : α} {value' : β} (related : values value value') :
      OutcomesMatch values (.ok value) (.ok value')
  | error (error : AuthError) : OutcomesMatch values (.error error) (.error error)

namespace OutcomesMatch

variable {α β : Type}

theorem of_eq {outcome outcome' : Except AuthError α} (same : outcome = outcome') :
    OutcomesMatch (· = ·) outcome outcome' := by
  rw [same]
  cases outcome' with
  | ok value => exact .ok rfl
  | error error => exact .error error

theorem eq {outcome outcome' : Except AuthError α} (same : OutcomesMatch (· = ·) outcome outcome') :
    outcome = outcome' := by
  cases same with
  | ok related => rw [related]
  | error error => rfl

theorem of_map {γ : Type} {view : α → γ} {view' : β → γ} {outcome : Except AuthError α}
    {outcome' : Except AuthError β} (same : outcome.map view = outcome'.map view') :
    OutcomesMatch (fun value value' => view value = view' value') outcome outcome' := by
  cases outcome with
  | ok value =>
      cases outcome' with
      | ok value' => exact .ok (Except.ok.inj same)
      | error error => cases same
  | error error =>
      cases outcome' with
      | ok value' => cases same
      | error error' => exact Except.error.inj same ▸ .error error

end OutcomesMatch

namespace World

/-- The worlds differ only in the bytes of password records, in tokens that stand for each other and
in their random sources, which have given as many tokens. -/
structure Mirrors (pairs : String → String → Prop) (left right : World) : Prop where
  now : left.now = right.now
  userStore : left.userStore = right.userStore
  sessionStore : left.sessionStore = right.sessionStore
  tokensGiven : left.random.tokensGiven = right.random.tokensGiven
  users : left.users.redacted = right.users.redacted
  sessions : left.sessions.Matches pairs right.sessions
  events : left.events = right.events
  calls : List.Forall₂ (Question.Matches pairs) left.calls right.calls

/-- Every token that one world has drawn stands for the other's. -/
def DrawsMatch (pairs : String → String → Prop) (left right : World) : Prop :=
  ∀ index < left.random.tokensGiven, index < right.random.tokensGiven →
    pairs (Token.ofBytes (left.random.tokens index)) (Token.ofBytes (right.random.tokens index))

/-- Two computations have ended alike: with values that are related, in worlds that mirror each
other. -/
structure Alike {α β : Type} (pairs : String → String → Prop) (values : α → β → Prop)
    (left : α × World) (right : β × World) : Prop where
  values : values left.1 right.1
  worlds : left.2.Mirrors pairs right.2

/-- Two computations have ended alike if the tokens match that have been drawn by then. -/
def EndAlike {α β : Type} (pairs : String → String → Prop) (values : α → β → Prop)
    (left : α × World) (right : β × World) : Prop :=
  DrawsMatch pairs left.2 right.2 → Alike pairs values left right

variable {pairs : String → String → Prop} {left right : World}

/-- The later world has the random source of the earlier one, which has given no fewer tokens. -/
structure DrawsOn (earlier later : World) : Prop where
  tokens : later.random.tokens = earlier.random.tokens
  tokensGiven : earlier.random.tokensGiven ≤ later.random.tokensGiven

theorem DrawsOn.trans {first second third : World} (before : first.DrawsOn second)
    (after : second.DrawsOn third) : first.DrawsOn third :=
  ⟨after.tokens.trans before.tokens, Nat.le_trans before.tokensGiven after.tokensGiven⟩

theorem drawsOn_perform (act : Act) (world : World) : world.DrawsOn (act.perform world).2 :=
  ⟨(precedes_perform act world).tokens, (precedes_perform act world).tokensGiven⟩

theorem drawsOn_enact (acts : List Act) (world : World) : world.DrawsOn (world.enact acts) := by
  induction acts generalizing world with
  | nil => exact ⟨rfl, Nat.le_refl _⟩
  | cons act acts ih => exact (drawsOn_perform act world).trans (ih (act.perform world).2)

theorem drawsOn_attempt_bind {α β : Type} (first : Action α) (next : α → Action β)
    (world : World) :
    (world.attempt first).2.DrawsOn (world.attempt (first >>= next)).2 := by
  rw [attempt_bind]
  rcases world.attempt first with ⟨_ | value, after⟩
  · exact ⟨rfl, Nat.le_refl _⟩
  · have precedes := precedes_run (next value) after
    exact ⟨precedes.tokens, precedes.tokensGiven⟩

/-- What has been drawn at the end includes what had been drawn before. -/
theorem DrawsMatch.of_drawsOn {before before' : World} (matched : DrawsMatch pairs left right)
    (later : before.DrawsOn left) (later' : before'.DrawsOn right) :
    DrawsMatch pairs before before' := by
  intro index drawn drawn'
  rw [← later.tokens, ← later'.tokens]
  exact matched index (Nat.lt_of_lt_of_le drawn later.tokensGiven)
    (Nat.lt_of_lt_of_le drawn' later'.tokensGiven)

theorem Alike.mono {α β : Type} {values results : α → β → Prop} {ended : α × World}
    {ended' : β × World} (alike : Alike pairs values ended ended')
    (weaker : ∀ {value value'}, values value value' → results value value') :
    Alike pairs results ended ended' :=
  ⟨weaker alike.values, alike.worlds⟩

theorem Alike.endAlike {α β : Type} {values : α → β → Prop} {ended : α × World}
    {ended' : β × World} (alike : Alike pairs values ended ended') :
    EndAlike pairs values ended ended' :=
  fun _ => alike

/-- Two actions end alike if their first parts do, and what follows ends alike wherever the first
parts have led. -/
theorem EndAlike.bind {α α' β β' : Type} {values : α → α' → Prop} {results : β → β' → Prop}
    {first : Action α} {first' : Action α'} {next : α → Action β} {next' : α' → Action β'}
    (firsts : EndAlike pairs (OutcomesMatch values) (left.attempt first) (right.attempt first'))
    (nexts : ∀ (value : α) (value' : α') (after after' : World), values value value' →
      after.Mirrors pairs after' →
      EndAlike pairs (OutcomesMatch results) (after.attempt (next value))
        (after'.attempt (next' value'))) :
    EndAlike pairs (OutcomesMatch results) (left.attempt (first >>= next))
      (right.attempt (first' >>= next')) := by
  intro matched
  obtain ⟨outcomes, mirrored⟩ := firsts (matched.of_drawsOn
    (drawsOn_attempt_bind first next left) (drawsOn_attempt_bind first' next' right))
  rw [attempt_bind, attempt_bind] at matched ⊢
  generalize left.attempt first = ended at outcomes mirrored matched ⊢
  generalize right.attempt first' = ended' at outcomes mirrored matched ⊢
  obtain ⟨outcome, after⟩ := ended
  obtain ⟨outcome', after'⟩ := ended'
  cases outcomes with
  | ok related => exact nexts _ _ after after' related mirrored matched
  | error error => exact ⟨.error error, mirrored⟩

namespace Mirrors

theorem logged (mirrored : left.Mirrors pairs right) (event : Event) :
    (left.logged event).Mirrors pairs (right.logged event) where
  __ := mirrored
  events := by rw [World.events_logged, World.events_logged, mirrored.events]
  calls := by simpa [World.calls, World.logged] using mirrored.calls

theorem noted {question question' : Question} (mirrored : left.Mirrors pairs right)
    (asked : question.Matches pairs question') :
    (left.noted question).Mirrors pairs (right.noted question') := by
  have called : question.isStoreCall = true ∧ question'.isStoreCall = true := by
    cases asked <;> exact ⟨rfl, rfl⟩
  rw [World.noted, World.noted, if_pos called.1, if_pos called.2]
  exact
    { mirrored with
      events := by simpa [World.events] using mirrored.events
      calls := by
        simpa [World.calls] using List.rel_append mirrored.calls (.cons asked .nil) }

theorem withUsers {users users' : UserTable} (mirrored : left.Mirrors pairs right)
    (same : users.redacted = users'.redacted) :
    { left with users }.Mirrors pairs { right with users := users' } :=
  { mirrored with users := same }

theorem withSessions {sessions sessions' : ExpiringMap} (mirrored : left.Mirrors pairs right)
    (same : sessions.Matches pairs sessions') :
    { left with sessions }.Mirrors pairs { right with sessions := sessions' } :=
  { mirrored with sessions := same }

/-! ## Work on the stores -/

theorem findUser (mirrored : left.Mirrors pairs right) (email : String) :
    Alike pairs (OutcomesMatch fun user user' => user.redacted = user'.redacted)
      (left.findUser email) (right.findUser email) := by
  have same : (left.users.find? email).map User.redacted =
      (right.users.find? email).map User.redacted := by
    rw [← UserTable.find?_redacted, ← UserTable.find?_redacted, mirrored.users]
  rw [World.findUser, World.findUser]
  cases found : left.users.find? email with
  | none =>
      rw [found, Option.map_none, eq_comm, Option.map_eq_none_iff] at same
      rw [same]
      exact ⟨.error .notFound, mirrored.logged _⟩
  | some user =>
      rw [found, Option.map_some, eq_comm, Option.map_eq_some_iff] at same
      obtain ⟨user', found', alike⟩ := same
      rw [found']
      exact ⟨.ok alike.symm, mirrored⟩

theorem insertUser {row row' : UserRow} (mirrored : left.Mirrors pairs right)
    (rows : row.redacted = row'.redacted) :
    Alike pairs (OutcomesMatch (· = ·)) (left.insertUser row) (right.insertUser row') := by
  have same := OutcomesMatch.of_map <| (UserTable.insert_redacted left.users row).symm.trans <|
    (congrArg₂ UserTable.insert mirrored.users rows).trans
      (UserTable.insert_redacted right.users row')
  rw [World.insertUser, World.insertUser]
  generalize left.users.insert row = outcome at same ⊢
  generalize right.users.insert row' = outcome' at same ⊢
  cases same with
  | error error => exact ⟨.error error, mirrored⟩
  | ok related =>
      obtain ⟨ids, tables⟩ := Prod.mk.inj related
      dsimp only
      rw [ids]
      exact ⟨.ok rfl, (mirrored.withUsers tables).logged _⟩

theorem setRole (mirrored : left.Mirrors pairs right) (id : UserId) (role : Role) :
    Alike pairs (OutcomesMatch (· = ·)) (left.setRole id role) (right.setRole id role) := by
  have same := OutcomesMatch.of_map <| (UserTable.setRole_redacted left.users id role).symm.trans <|
    (congrArg (·.setRole id role) mirrored.users).trans
      (UserTable.setRole_redacted right.users id role)
  rw [World.setRole, World.setRole]
  generalize left.users.setRole id role = outcome at same ⊢
  generalize right.users.setRole id role = outcome' at same ⊢
  cases same with
  | error error => exact ⟨.error error, mirrored⟩
  | ok related => exact ⟨.ok rfl, mirrored.withUsers related⟩

theorem sweep (mirrored : left.Mirrors pairs right) :
    Alike pairs (· = ·) left.sweep right.sweep := by
  obtain ⟨counts, kept⟩ := mirrored.sessions.sweep mirrored.now
  exact ⟨counts, mirrored.withSessions kept⟩

section Keys

variable {key key' : String} (matching : IsMatching pairs) (mirrored : left.Mirrors pairs right)
  (keys : pairs key key')

include matching mirrored keys

theorem setEntry (value : Octets) (lifetime : Option Lifetime) :
    Alike pairs (OutcomesMatch (· = ·)) (left.setEntry key value lifetime)
      (right.setEntry key' value lifetime) := by
  have ends : ExpiringMap.expiry left.now lifetime = ExpiringMap.expiry right.now lifetime := by
    rw [mirrored.now]
  rw [World.setEntry, World.setEntry, ExpiringMap.set, ExpiringMap.set, ends]
  cases ExpiringMap.expiry right.now lifetime with
  | error error => exact ⟨.error error, mirrored⟩
  | ok expires =>
      exact ⟨.ok rfl, mirrored.withSessions (mirrored.sessions.insert matching.unique keys _)⟩

theorem getEntry : Alike pairs (· = ·) (left.getEntry key) (right.getEntry key') := by
  obtain ⟨values, kept⟩ := mirrored.sessions.get matching.unique keys mirrored.now
  exact ⟨values, mirrored.withSessions kept⟩

theorem deleteEntry : Alike pairs (· = ·) (left.deleteEntry key) (right.deleteEntry key') := by
  obtain ⟨existed, kept⟩ := mirrored.sessions.delete matching.unique keys
  exact ⟨existed, mirrored.withSessions kept⟩

theorem putSession (identity : Identity) (lifetime : Lifetime) :
    Alike pairs (OutcomesMatch (· = ·)) (left.putSession key identity lifetime)
      (right.putSession key' identity lifetime) := by
  rw [World.putSession, World.putSession, matching.isEmpty keys]
  cases key'.isEmpty with
  | true => exact ⟨.error .invalidToken, mirrored⟩
  | false =>
      obtain ⟨outcomes, stored⟩ := setEntry matching mirrored keys identity.encode (some lifetime)
      rw [if_neg Bool.false_ne_true, if_neg Bool.false_ne_true]
      generalize left.setEntry key identity.encode (some lifetime) = ended at outcomes stored ⊢
      generalize right.setEntry key' identity.encode (some lifetime) = ended' at outcomes stored ⊢
      obtain ⟨outcome, after⟩ := ended
      obtain ⟨outcome', after'⟩ := ended'
      cases outcomes with
      | error error => exact ⟨.error error, stored⟩
      | ok related => exact ⟨.ok rfl, stored.logged _⟩

theorem deleteSession :
    Alike pairs (OutcomesMatch (· = ·)) (left.deleteSession key) (right.deleteSession key') := by
  rw [World.deleteSession, World.deleteSession, matching.isEmpty keys]
  cases key'.isEmpty with
  | true => exact ⟨.error .invalidToken, mirrored⟩
  | false =>
      obtain ⟨existed, deleted⟩ := deleteEntry matching mirrored keys
      rw [if_neg Bool.false_ne_true, if_neg Bool.false_ne_true]
      generalize left.deleteEntry key = ended at existed deleted ⊢
      generalize right.deleteEntry key' = ended' at existed deleted ⊢
      obtain ⟨_, after⟩ := ended
      obtain ⟨_, after'⟩ := ended'
      cases existed
      exact ⟨.ok rfl, deleted.logged _⟩

theorem getSession :
    Alike pairs (OutcomesMatch (· = ·)) (left.getSession key) (right.getSession key') := by
  cases blank : key'.isEmpty with
  | true =>
      rw [getSession_of_blank blank, getSession_of_blank ((matching.isEmpty keys).trans blank)]
      exact ⟨.error .invalidToken, mirrored⟩
  | false =>
      obtain ⟨values, looked⟩ := getEntry matching mirrored keys
      rw [getSession_of_notBlank blank,
        getSession_of_notBlank ((matching.isEmpty keys).trans blank), values]
      exact ⟨.of_eq rfl, looked⟩

end Keys

/-! ## Questions -/

/-- Stores in the same condition answer alike if sound stores do. -/
theorem viaUserStore {α : Type} {values : α → α → Prop} (same : ∀ value, values value value)
    {sound sound' : World → Except AuthError α × World} (stale : Option α)
    (mirrored : left.Mirrors pairs right)
    (sounds : Alike pairs (OutcomesMatch values) (sound left) (sound' right)) :
    Alike pairs (OutcomesMatch values) (left.viaUserStore stale sound)
      (right.viaUserStore stale sound') := by
  unfold World.viaUserStore
  rw [mirrored.userStore]
  cases right.userStore with
  | sound => exact sounds
  | stale =>
      cases stale with
      | none => exact sounds
      | some answer => exact ⟨.ok (same answer), mirrored⟩
  | failing report => exact ⟨.error _, mirrored⟩

theorem viaSessionStore {α : Type} {sound sound' : World → Except AuthError α × World}
    (forgetful : Option α) (mirrored : left.Mirrors pairs right)
    (sounds : Alike pairs (OutcomesMatch (· = ·)) (sound left) (sound' right)) :
    Alike pairs (OutcomesMatch (· = ·)) (left.viaSessionStore forgetful sound)
      (right.viaSessionStore forgetful sound') := by
  unfold World.viaSessionStore
  rw [mirrored.sessionStore]
  cases right.sessionStore with
  | sound => exact sounds
  | forgetful =>
      cases forgetful with
      | none => exact sounds
      | some answer => exact ⟨.ok rfl, mirrored⟩
  | failing report => exact ⟨.error _, mirrored⟩

theorem attempt_findUser (mirrored : left.Mirrors pairs right) (email : String) :
    Alike pairs (OutcomesMatch fun user user' => user.redacted = user'.redacted)
      (left.attempt (Action.findUser email)) (right.attempt (Action.findUser email)) := by
  have noted := mirrored.noted (.findUser email)
  refine viaUserStore ?_ none noted (noted.findUser email)
  exact fun _ => rfl

theorem attempt_emailTaken (mirrored : left.Mirrors pairs right) (email : String) :
    Alike pairs (OutcomesMatch (· = ·)) (left.attempt (Action.emailTaken email))
      (right.attempt (Action.emailTaken email)) := by
  have noted := mirrored.noted (.emailTaken email)
  have same : left.users.contains email = right.users.contains email := by
    rw [← UserTable.contains_redacted, ← UserTable.contains_redacted right.users, mirrored.users]
  exact viaUserStore (fun _ => rfl) (some false) noted ⟨.ok same, noted⟩

theorem attempt_insertUser {row row' : UserRow} (mirrored : left.Mirrors pairs right)
    (rows : row.redacted = row'.redacted) :
    Alike pairs (OutcomesMatch (· = ·)) (left.attempt (Action.insertUser row))
      (right.attempt (Action.insertUser row')) :=
  have noted := mirrored.noted (.insertUser rows)
  viaUserStore (fun _ => rfl) none noted (noted.insertUser rows)

section Keys

variable {key key' : String} (matching : IsMatching pairs) (mirrored : left.Mirrors pairs right)
  (keys : pairs key key')

include matching mirrored keys

theorem attempt_putSession (identity : Identity) (lifetime : Lifetime) :
    Alike pairs (OutcomesMatch (· = ·)) (left.attempt (Action.putSession key identity lifetime))
      (right.attempt (Action.putSession key' identity lifetime)) :=
  have noted := mirrored.noted (.putSession keys identity lifetime)
  viaSessionStore (some ()) noted (putSession matching noted keys identity lifetime)

theorem attempt_deleteSession :
    Alike pairs (OutcomesMatch (· = ·)) (left.attempt (Action.deleteSession key))
      (right.attempt (Action.deleteSession key')) :=
  have noted := mirrored.noted (.deleteSession keys)
  viaSessionStore none noted (deleteSession matching noted keys)

theorem attempt_getSession :
    Alike pairs (OutcomesMatch (· = ·)) (left.attempt (Action.getSession key))
      (right.attempt (Action.getSession key')) :=
  have noted := mirrored.noted (.getSession keys)
  viaSessionStore (some (⟨0, .user⟩ : Identity)) noted (getSession matching noted keys)

end Keys

/-- The tokens that both worlds draw next match if those match that have been drawn in the end. -/
theorem attempt_drawToken (mirrored : left.Mirrors pairs right) :
    EndAlike pairs
      (OutcomesMatch fun bytes bytes' => pairs (Token.ofBytes bytes) (Token.ofBytes bytes'))
      (left.attempt Action.drawToken) (right.attempt Action.drawToken) := by
  intro matched
  have next : pairs (Token.ofBytes (left.random.tokens left.random.tokensGiven))
      (Token.ofBytes (right.random.tokens right.random.tokensGiven)) :=
    mirrored.tokensGiven ▸ matched left.random.tokensGiven (Nat.lt_succ_self _)
      (mirrored.tokensGiven ▸ Nat.lt_succ_self _)
  exact ⟨.ok next, { mirrored with tokensGiven := congrArg Nat.succ mirrored.tokensGiven }⟩

theorem attempt_readClock (mirrored : left.Mirrors pairs right) :
    Alike pairs (OutcomesMatch (· = ·)) (left.attempt Action.readClock)
      (right.attempt Action.readClock) :=
  ⟨.ok mirrored.now, mirrored⟩

theorem attempt_logService (mirrored : left.Mirrors pairs right) (level : Level)
    (message : String) (fields : List (String × String)) :
    Alike pairs (OutcomesMatch (· = ·)) (left.attempt (Action.logService level message fields))
      (right.attempt (Action.logService level message fields)) :=
  ⟨.ok rfl, mirrored.logged _⟩

end Mirrors

end World

end SessionGate
