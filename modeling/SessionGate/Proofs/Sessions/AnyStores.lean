import SessionGate.Proofs.Sessions.Conversations

/-!
# Operations over any stores

Whatever the stores answer, an operation asks questions of each kind at most once and in a fixed
order. The first failure ends it and is what it comes to. Beyond this each operation keeps a
contract of its own about what it asks for and what it makes of the answers.
-/

namespace SessionGate

open Time

/-- The kinds of questions. -/
inductive Question.Kind where
  | findUser
  | emailTaken
  | insertUser
  | putSession
  | deleteSession
  | getSession
  | readClock
  | drawSalt
  | drawToken
  | log
  deriving DecidableEq

def Question.kind : Question → Question.Kind
  | .findUser _ => .findUser
  | .emailTaken _ => .emailTaken
  | .insertUser _ => .insertUser
  | .putSession _ _ _ => .putSession
  | .deleteSession _ => .deleteSession
  | .getSession _ => .getSession
  | .readClock => .readClock
  | .drawSalt => .drawSalt
  | .drawToken => .drawToken
  | .log _ => .log

/-- Questions of each kind are asked at most once and in the order given; nothing is asked after a
failure, and the failure itself is the result. -/
structure IsOrderly {α : Type} (order : List Question.Kind) (turns : List Turn)
    (result : Except AuthError α) : Prop where
  distinct : order.Nodup
  inOrder : turns.map (fun turn => turn.1.kind) <+: order
  stops : ∀ turn ∈ turns.dropLast, turn.failure? = none
  passesOn : ∀ turn ∈ turns, ∀ error, turn.failure? = some error → result = .error error

namespace IsOrderly

variable {α : Type} {kind : Question.Kind} {order : List Question.Kind} {turn : Turn}
  {turns : List Turn} {result : Except AuthError α}

theorem nil (distinct : order.Nodup) : IsOrderly order [] result :=
  ⟨distinct, List.nil_prefix, by simp, by simp⟩

theorem last (same : turn.1.kind = kind) (distinct : (kind :: order).Nodup)
    (passesOn : ∀ error, turn.failure? = some error → result = .error error) :
    IsOrderly (kind :: order) [turn] result :=
  ⟨distinct, by simp [same], by simp, by simpa using passesOn⟩

theorem cons (same : turn.1.kind = kind) (new : kind ∉ order) (heard : turn.failure? = none)
    (later : IsOrderly order turns result) : IsOrderly (kind :: order) (turn :: turns) result where
  distinct := List.nodup_cons.mpr ⟨new, later.distinct⟩
  inOrder := by
    rw [List.map_cons, same, List.prefix_cons_inj]
    exact later.inOrder
  stops other member := by
    cases turns with
    | nil => cases member
    | cons next rest =>
        rcases List.mem_cons.mp member with rfl | behind
        · exact heard
        · exact later.stops other behind
  passesOn other member error failed := by
    rcases List.mem_cons.mp member with rfl | behind
    · simp [heard] at failed
    · exact later.passesOn other behind error failed

end IsOrderly

namespace Manager

variable {manager : Manager} {user : NewUser} {role : Role} {credentials : Credentials}
  {token : String} {turns : List Turn}

/-! ## The order of questions -/

theorem Provisions.isOrderly {result : Except AuthError UserId}
    (provisions : manager.Provisions user role turns result) :
    IsOrderly [.drawSalt, .insertUser] turns result := by
  cases provisions with
  | unsalted report => exact .last rfl (by decide) (by simp [Turn.failure?])
  | unhashable salt long => exact .cons rfl (by decide) rfl (.nil (by decide))
  | inserted salt made records =>
      refine .cons rfl (by decide) rfl (.last rfl (by decide) ?_)
      cases result <;> simp [Turn.failure?]

theorem Registers.isOrderly {result : Except AuthError UserId}
    (registers : manager.Registers user turns result) :
    IsOrderly [.emailTaken, .drawSalt, .insertUser] turns result := by
  cases registers with
  | nothing empty => exact .nil (by decide)
  | unknown something error => exact .last rfl (by decide) (by simp [Turn.failure?])
  | taken something => exact .last rfl (by decide) (by simp [Turn.failure?])
  | free something provisions => exact .cons rfl (by decide) rfl provisions.isOrderly

theorem LogsIn.isOrderly {result : Except AuthError (Session × UserId)}
    (logsIn : manager.LogsIn credentials turns result) :
    IsOrderly [.findUser, .readClock, .drawToken, .putSession] turns result := by
  cases logsIn with
  | unknown error => exact .last rfl (by decide) (by simp [Turn.failure?])
  | wrong wrong => exact .last rfl (by decide) (by simp [Turn.failure?])
  | undrawn now report right =>
      exact .cons rfl (by decide) rfl
        (.cons rfl (by decide) rfl (.last rfl (by decide) (by simp [Turn.failure?])))
  | unopened bytes right refused =>
      exact .cons rfl (by decide) rfl
        (.cons rfl (by decide) rfl (.cons rfl (by decide) rfl (.nil (by decide))))
  | stored answer right opened =>
      refine .cons rfl (by decide) rfl
        (.cons rfl (by decide) rfl (.cons rfl (by decide) rfl (.last rfl (by decide) ?_)))
      cases answer <;> simp [Turn.failure?, Except.map]

theorem Revokes.isOrderly {result : Except AuthError Unit} (revokes : Revokes token turns result) :
    IsOrderly [.deleteSession] turns result := by
  cases revokes with
  | blank blank => exact .nil (by decide)
  | asked notBlank =>
      refine .last rfl (by decide) ?_
      cases result <;> simp [Turn.failure?]

theorem Resolves.isOrderly {result : Except AuthError Identity}
    (resolves : Resolves token turns result) : IsOrderly [.getSession] turns result := by
  cases resolves with
  | blank blank => exact .nil (by decide)
  | asked notBlank =>
      refine .last rfl (by decide) ?_
      cases result <;> simp [Turn.failure?]

/-! ## What a login stores -/

/-- A login stores a session if the account was found, the password is right, a session can be
opened at the time read and the random source gives a token. -/
theorem LogsIn.puts_iff {result : Except AuthError (Session × UserId)}
    (logsIn : manager.LogsIn credentials turns result) :
    (∃ turn ∈ turns, turn.1.kind = .putSession) ↔
      ∃ user now, ⟨.findUser credentials.email, .ok user⟩ ∈ turns ∧
        manager.hasher.verifies (Octets.ofText credentials.password) user.password = true ∧
        ⟨.readClock, now⟩ ∈ turns ∧ manager.CanOpen now ∧
        ∀ report, ⟨.drawToken, .error report⟩ ∉ turns := by
  cases logsIn with
  | unknown error => simp [Question.kind]
  | wrong wrong => simp [Question.kind]
  | undrawn now report right => simp [Question.kind]
  | @unopened user now error bytes right refused =>
      have closed : ¬ manager.CanOpen now := by
        rw [← exists_openSession_iff]
        rintro ⟨opened, accepted⟩
        cases refused.symm.trans accepted
      simp [Question.kind, closed]
  | @stored user now bytes session lifetime answer right opened =>
      have canOpen : manager.CanOpen now := exists_openSession_iff.mp ⟨_, opened⟩
      simp [Question.kind, right, canOpen]

/-- What a session is stored with: the token just drawn, who the account found speaks for, and the
time from now to its end, which outside of leap seconds is the length of a session. -/
structure StoresSession (manager : Manager) (credentials : Credentials) (turns : List Turn)
    (user : User) (now : Instant) (bytes : TokenBytes) (session : Session) (lifetime : Lifetime) :
    Prop where
  found : ⟨.findUser credentials.email, .ok user⟩ ∈ turns
  timed : ⟨.readClock, now⟩ ∈ turns
  drawn : ⟨.drawToken, .ok bytes⟩ ∈ turns
  token : session.token = Token.ofBytes bytes
  identity : session.identity = ⟨user.id, user.role⟩
  ends : now.add? manager.ttl = some session.expiresAt
  lasts : (lifetime.nanos : Int) = (session.expiresAt.since now).nanos
  lastsPlain : now.isLeap = false → (lifetime.nanos : Int) = manager.ttl.nanos

/-- A login returns the session that it stores, or the failure to store it. -/
theorem LogsIn.storesSession {result : Except AuthError (Session × UserId)} {put : Turn}
    (logsIn : manager.LogsIn credentials turns result) (member : put ∈ turns)
    (kind : put.1.kind = .putSession) :
    ∃ user now bytes session lifetime answer,
      put = ⟨.putSession session.token session.identity lifetime, answer⟩ ∧
      manager.StoresSession credentials turns user now bytes session lifetime ∧
      result = answer.map fun _ => (session, user.id) := by
  cases logsIn with
  | @stored user now bytes session lifetime answer right opened =>
      obtain ⟨token, identity, ends, length⟩ := eq_of_openSession opened
      have lasts := Span.toLifetime?_eq_some_iff.mp length
      have same : put = ⟨.putSession session.token session.identity lifetime, answer⟩ := by
        simp only [List.mem_cons, List.not_mem_nil, or_false] at member
        rcases member with rfl | rfl | rfl | rfl
        · cases kind
        · cases kind
        · cases kind
        · rfl
      refine ⟨user, now, bytes, session, lifetime, answer, same, ?_, rfl⟩
      refine ⟨by simp, by simp, by simp, token, identity, ends, lasts, fun plain => ?_⟩
      rw [lasts, Instant.nanos_since_of_add? plain ends]
  | unknown error =>
      obtain rfl := List.mem_singleton.mp member
      cases kind
  | wrong wrong =>
      obtain rfl := List.mem_singleton.mp member
      cases kind
  | undrawn now report right =>
      simp only [List.mem_cons, List.not_mem_nil, or_false] at member
      rcases member with rfl | rfl | rfl <;> cases kind
  | unopened bytes right refused =>
      simp only [List.mem_cons, List.not_mem_nil, or_false] at member
      rcases member with rfl | rfl | rfl <;> cases kind

/-! ## All operations -/

/-- What a login is held to: its course, when it stores a session, and what it stores and
returns. -/
structure LoginContract (manager : Manager) (credentials : Credentials) (turns : List Turn)
    (result : Except AuthError (Session × UserId)) : Prop where
  course : manager.LogsIn credentials turns result
  puts_iff : (∃ turn ∈ turns, turn.1.kind = .putSession) ↔
    ∃ user now, ⟨.findUser credentials.email, .ok user⟩ ∈ turns ∧
      manager.hasher.verifies (Octets.ofText credentials.password) user.password = true ∧
      ⟨.readClock, now⟩ ∈ turns ∧ manager.CanOpen now ∧
      ∀ report, ⟨.drawToken, .error report⟩ ∉ turns
  stores : ∀ put ∈ turns, put.1.kind = .putSession →
    ∃ user now bytes session lifetime answer,
      put = ⟨.putSession session.token session.identity lifetime, answer⟩ ∧
      manager.StoresSession credentials turns user now bytes session lifetime ∧
      result = answer.map fun _ => (session, user.id)

/-- In surroundings, from a state, the action asks its questions in order and keeps to its
contract. -/
structure Keeps {α σ : Type} (action : Action α) (order : List Question.Kind)
    (contract : List Turn → Except AuthError α → Prop) (answer : Surroundings σ) (state : σ) :
    Prop where
  isOrderly : IsOrderly order (action.transcript answer state) (action.outcome answer state)
  contract : contract (action.transcript answer state) (action.outcome answer state)

theorem keeps_of_converses {α σ : Type} {action : Action α} {order : List Question.Kind}
    {contract : List Turn → Except AuthError α → Prop}
    (keeps : ∀ turns result, action.Converses turns result →
      IsOrderly order turns result ∧ contract turns result) (answer : Surroundings σ) (state : σ) :
    Keeps action order contract answer state :=
  have kept := keeps _ _ (action.converses_transcript answer state)
  ⟨kept.1, kept.2⟩

/-- Every operation keeps its contract, whatever the stores answer and however their answers change
from one call to the next, and also where the random source has nothing to give. -/
theorem operations_over_any_stores {σ : Type} (manager : Manager) (answer : Surroundings σ)
    (state : σ) :
    (∀ user, Keeps (manager.register user) [.emailTaken, .drawSalt, .insertUser]
      (manager.Registers user) answer state) ∧
    (∀ user role, Keeps (manager.provision user role) [.drawSalt, .insertUser]
      (manager.Provisions user role) answer state) ∧
    (∀ credentials, Keeps (manager.login credentials)
      [.findUser, .readClock, .drawToken, .putSession] (manager.LoginContract credentials) answer
      state) ∧
    (∀ now : Instant, now.isLeap = false → (manager.CanOpen now ↔
      (∃ expiresAt, now.add? manager.ttl = some expiresAt) ∧ 0 ≤ manager.ttl.nanos)) ∧
    (∀ token, Keeps (logout token) [.deleteSession] (Revokes token) answer state) ∧
    (∀ token, Keeps (resolve token) [.getSession] (Resolves token) answer state) := by
  refine ⟨fun user => ?_, fun user role => ?_, fun credentials => ?_, fun now => canOpen_iff,
    fun token => ?_, fun token => ?_⟩
  · refine keeps_of_converses (fun turns result converses => ?_) answer state
    have registers := converses_register converses
    exact ⟨registers.isOrderly, registers⟩
  · refine keeps_of_converses (fun turns result converses => ?_) answer state
    have provisions := converses_provision converses
    exact ⟨provisions.isOrderly, provisions⟩
  · refine keeps_of_converses (fun turns result converses => ?_) answer state
    have logsIn := converses_login converses
    exact ⟨logsIn.isOrderly, logsIn, logsIn.puts_iff, fun _ => logsIn.storesSession⟩
  · refine keeps_of_converses (fun turns result converses => ?_) answer state
    have revokes := converses_logout converses
    exact ⟨revokes.isOrderly, revokes⟩
  · refine keeps_of_converses (fun turns result converses => ?_) answer state
    have resolves := converses_resolve converses
    exact ⟨resolves.isOrderly, resolves⟩

end Manager

/-! ## Surroundings in which all is well -/

/-- An account with the password "b". -/
def User.owner : User :=
  ⟨1, "a@b.c", none, ⟨List.replicate 8 0 ++
    Hash.Argon2id.key HashCosts.cheap (Octets.ofText "b") (List.replicate 8 0)⟩, .user⟩

/-- Surroundings that always answer in the same way, as if all were well. -/
def Surroundings.welcoming (now : Instant) : Surroundings Unit := fun question _ =>
  match question with
  | .findUser _ => (.ok .owner, ())
  | .emailTaken _ => (.ok false, ())
  | .insertUser _ => (.ok 1, ())
  | .putSession _ _ _ | .deleteSession _ => (.ok (), ())
  | .getSession _ => (.error .notFound, ())
  | .readClock => (now, ())
  | .drawSalt => (.ok (.replicate 8 0), ())
  | .drawToken => (.ok (.replicate 32 0), ())
  | .log _ => ((), ())

/-- Surroundings in which all is well, but for what the store of sessions makes of a new session. -/
def Surroundings.storing (stored : Except AuthError Unit) : Surroundings Unit :=
  fun question state =>
    match question with
    | .putSession _ _ _ => (stored, ())
    | question => Surroundings.welcoming .epoch question state

/-- Surroundings without a state have answered every turn as they always do. -/
theorem Surroundings.answer_of_mem_transcript {α : Type} {answer : Surroundings Unit}
    {program : Program α} {turn : Turn} (member : turn ∈ program.transcript answer ()) :
    turn.2 = (answer turn.1 ()).1 :=
  (Program.exists_state_of_mem_transcript member).elim fun _ same => same

theorem Hasher.record_owner :
    Manager.cheap.hasher.record (Octets.ofText "b") (.replicate 8 0) =
      .ok User.owner.password := by
  have short : ¬ 0xffffffff < (Octets.ofText "b").length := by decide
  have made := Manager.cheap.hasher.record_salt (Octets.ofText "b") (.replicate 8 0)
  rw [if_neg short] at made
  exact made

theorem Hasher.verifies_owner :
    Manager.cheap.hasher.verifies (Octets.ofText "b") User.owner.password = true :=
  verifies_of_record rfl record_owner

/-- The last nanosecond of a leap second at the end of a day. -/
def Time.Instant.endOfLeapSecond : Instant :=
  ⟨86399, 1999999999, by decide, by decide, by decide⟩

/-- A manager with cheap costs, whose sessions last a nanosecond. -/
def Manager.fleeting : Manager :=
  ⟨Manager.cheap.hasher, ⟨1, by decide, by decide⟩⟩

theorem Manager.not_canOpen_endOfLeapSecond : ¬ Manager.fleeting.CanOpen .endOfLeapSecond := by
  rintro ⟨expiresAt, sum, lasts⟩
  obtain rfl : (⟨86400, 0, by decide, by decide, by decide⟩ : Instant) = expiresAt :=
    Option.some.inj sum
  revert lasts
  decide

theorem Manager.openSession_endOfLeapSecond (user : User) (token : String) :
    fleeting.openSession user .endOfLeapSecond token = .error (.internal .negativeTtl) := by
  have sum : Instant.endOfLeapSecond.add? fleeting.ttl =
      some ⟨86400, 0, by decide, by decide, by decide⟩ := rfl
  rw [openSession, sum]
  dsimp only
  rw [Span.toLifetime?_eq_none_iff.mpr (by decide)]

/-- At the end of a leap second a right password stores nothing, although the end of the session
can be represented and its length is not negative: that end counts as one that has passed. -/
theorem no_put_at_end_of_leap_second :
    let turns := (Manager.fleeting.login ⟨"a@b.c", "b"⟩).transcript
      (.welcoming .endOfLeapSecond) ()
    (⟨.findUser "a@b.c", .ok .owner⟩ ∈ turns ∧
      Manager.fleeting.hasher.verifies (Octets.ofText "b") User.owner.password = true ∧
      ⟨.readClock, .endOfLeapSecond⟩ ∈ turns ∧
      (∃ expiresAt, Instant.endOfLeapSecond.add? Manager.fleeting.ttl = some expiresAt) ∧
      0 ≤ Manager.fleeting.ttl.nanos) ∧
    ¬ ∃ turn ∈ turns, turn.1.kind = .putSession := by
  intro turns
  have answered : ∀ turn ∈ turns, turn.2 =
      (Surroundings.welcoming .endOfLeapSecond turn.1 ()).1 :=
    fun _ => Surroundings.answer_of_mem_transcript
  have course := Manager.converses_login
    (Action.converses_transcript (.welcoming .endOfLeapSecond)
      (Manager.fleeting.login ⟨"a@b.c", "b"⟩) ())
  change Manager.fleeting.LogsIn ⟨"a@b.c", "b"⟩ turns _ at course
  -- All that is used of the transcript is its course and how each turn has been answered.
  generalize Action.outcome _ _ _ = result at course
  clear_value turns
  cases course with
  | unknown error => cases answered _ List.mem_cons_self
  | @wrong user wrong =>
      cases answered _ List.mem_cons_self
      cases Hasher.verifies_owner.symm.trans wrong
  | @undrawn user now report right =>
      cases answered _ (List.mem_cons_of_mem _ (List.mem_cons_of_mem _ List.mem_cons_self))
  | @unopened user now error bytes right refused =>
      cases answered _ List.mem_cons_self
      obtain rfl : now = .endOfLeapSecond :=
        answered _ (List.mem_cons_of_mem _ List.mem_cons_self)
      refine ⟨⟨by simp, right, by simp, ⟨_, rfl⟩, by decide⟩, ?_⟩
      simp [Question.kind]
  | @stored user now bytes session lifetime answer right opened =>
      obtain rfl : now = .endOfLeapSecond :=
        answered _ (List.mem_cons_of_mem _ List.mem_cons_self)
      exact absurd (Manager.exists_openSession_iff.mp ⟨_, opened⟩)
        Manager.not_canOpen_endOfLeapSecond

end SessionGate
