import Mathlib
import SessionGate.Proofs.Http.Answers
import SessionGate.Proofs.Sessions.AnyStores
import SessionGate.Proofs.Store.Hosting

/-!
# Registration and login agree

A request to register inserts an account and then logs it in, in two steps without a transaction.
Whatever others do to the table in between, the login finds the account that was inserted and
accepts the password. So what can still fail is the store of sessions, the random source or the end
of the session, and then a later login succeeds where they allow it. A store of sessions that fails
with anything but a fault has its failure passed on as if the request had met it.
-/

namespace SessionGate

variable {faulty : Prop} {table after : UserTable} {turns : List Turn} {manager : Manager}

/-! ## The two steps -/

namespace Manager

/-- What a login of an account with the right password comes to: a session stored for the account,
the failure to store it, to find an end for it or to draw a token for it. -/
inductive Enters (manager : Manager) (owner : User) (turns : List Turn) :
    Except AuthError (Session × UserId) → Prop where
  | stored {session : Session} {role : Role} {lifetime : Time.Lifetime}
      (put : ⟨.putSession session.token ⟨owner.id, role⟩ lifetime, .ok ()⟩ ∈ turns) :
      Enters manager owner turns (.ok (session, owner.id))
  | unstored {token : String} {role : Role} {lifetime : Time.Lifetime} {error : AuthError}
      (put : ⟨.putSession token ⟨owner.id, role⟩ lifetime, .error error⟩ ∈ turns) :
      Enters manager owner turns (.error error)
  | endless {now : Time.Instant} {fault : Fault} (timed : ⟨.readClock, now⟩ ∈ turns)
      (closed : ¬ manager.CanOpen now) : Enters manager owner turns (.error (.internal fault))
  | undrawn {report : String} (drawn : ⟨.drawToken, .error report⟩ ∈ turns) :
      Enters manager owner turns (.error (.internal (.tokenDraw report)))

theorem Enters.of_subset {owner : User} {talk : List Turn}
    {result : Except AuthError (Session × UserId)} (enters : manager.Enters owner talk result)
    (within : talk ⊆ turns) : manager.Enters owner turns result := by
  cases enters with
  | stored put => exact .stored (within put)
  | unstored put => exact .unstored (within put)
  | endless timed closed => exact .endless (within timed) closed
  | undrawn drawn => exact .undrawn (within drawn)

theorem internal_of_openSession {user : User} {now : Time.Instant} {token : String}
    {error : AuthError} (refused : manager.openSession user now token = .error error) :
    ∃ fault, error = .internal fault := by
  unfold openSession at refused
  split at refused
  · exact ⟨_, (Except.error.inj refused).symm⟩
  · split at refused
    · exact ⟨_, (Except.error.inj refused).symm⟩
    · cases refused

/-- A login finds an account that is there and accepts the right password for it. -/
theorem LogsIn.enters {credentials : Credentials} {owner : User}
    {result : Except AuthError (Session × UserId)}
    (logsIn : manager.LogsIn credentials turns result)
    (hosts : table.Hosts faulty turns after) (known : table.Knows credentials.email owner)
    (right : manager.hasher.verifies (Octets.ofText credentials.password) owner.password = true) :
    (faulty ∧ ∃ fault, result = .error (.internal fault)) ∨
      (∃ role, ⟨.findUser credentials.email, .ok (owner.withRole role)⟩ ∈ turns) ∧
        manager.Enters owner turns result := by
  cases logsIn with
  | unknown error =>
      rcases hosts.answer_of_knows known with ⟨role, same⟩ | ⟨isFaulty, fault, same⟩
      · cases same
      · cases same
        exact .inl ⟨isFaulty, fault, rfl⟩
  | wrong wrong =>
      rcases hosts.answer_of_knows known with ⟨role, same⟩ | ⟨-, fault, same⟩
      · cases same
        cases right.symm.trans wrong
      · cases same
  | @undrawn user now report _ =>
      rcases hosts.answer_of_knows known with ⟨role, same⟩ | ⟨-, fault, same⟩
      · cases same
        exact .inr ⟨⟨role, by simp⟩, .undrawn (by simp)⟩
      · cases same
  | @unopened user now error bytes _ refused =>
      rcases hosts.answer_of_knows known with ⟨role, same⟩ | ⟨-, fault, same⟩
      · cases same
        obtain ⟨fault, rfl⟩ := internal_of_openSession refused
        have closed : ¬ manager.CanOpen now := by
          rw [← exists_openSession_iff]
          rintro ⟨opened, accepted⟩
          cases refused.symm.trans accepted
        exact .inr ⟨⟨role, by simp⟩, .endless (by simp) closed⟩
      · cases same
  | @stored user now bytes session lifetime answer _ opened =>
      rcases hosts.answer_of_knows known with ⟨role, same⟩ | ⟨-, fault, same⟩
      · cases same
        have identity : session.identity = ⟨owner.id, role⟩ := (eq_of_openSession opened).2.1
        refine .inr ⟨⟨role, by simp⟩, ?_⟩
        rw [identity]
        have last {first second third put : Turn} : put ∈ [first, second, third, put] := by simp
        cases answer with
        | ok value => exact .stored last
        | error error => exact .unstored last
      · cases same

theorem LogsIn.not_inserts {credentials : Credentials}
    {result : Except AuthError (Session × UserId)}
    (logsIn : manager.LogsIn credentials turns result) (row : UserRow)
    (answer : Except AuthError UserId) : ⟨.insertUser row, answer⟩ ∉ turns := by
  cases logsIn <;> simp

/-- A registration that inserts an account has been told that the address is free, and succeeds. -/
theorem Registers.eq_of_inserted {user : NewUser} {result : Except AuthError UserId}
    (registers : manager.Registers user turns result) {row : UserRow} {id : UserId}
    (inserted : ⟨.insertUser row, .ok id⟩ ∈ turns) :
    ∃ salt record, manager.hasher.Records user.password record ∧
      row = ⟨user.email, user.name, record, .user⟩ ∧ result = .ok id ∧
      turns = [⟨.emailTaken user.email, .ok false⟩, ⟨.drawSalt, .ok salt⟩,
        ⟨.insertUser row, .ok id⟩] := by
  cases registers with
  | nothing empty => cases inserted
  | unknown something error => simp at inserted
  | taken something => simp at inserted
  | free something provisions =>
      cases provisions with
      | unsalted report => simp at inserted
      | unhashable salt long => simp at inserted
      | @inserted salt record made records answer =>
          simp only [List.mem_cons, Sigma.mk.injEq, reduceCtorEq, false_and, List.not_mem_nil,
            or_false, false_or, Question.insertUser.injEq] at inserted
          obtain ⟨rfl, same⟩ := inserted
          obtain rfl := eq_of_heq same
          exact ⟨salt, record, records, rfl, rfl, rfl⟩

/-- What a registration inserts is there for the login that follows. -/
theorem Registers.knows_of_hosts {user : NewUser} {result : Except AuthError UserId}
    (registers : manager.Registers user turns result) (hosts : table.Hosts faulty turns after)
    {row : UserRow} {id : UserId} (inserted : ⟨.insertUser row, .ok id⟩ ∈ turns) :
    after.Knows user.email (row.withId id) := by
  obtain ⟨salt, record, -, rfl, -, rfl⟩ := registers.eq_of_inserted inserted
  cases hosts with
  | cons _ _ salted =>
      cases salted with
      | cons _ _ inserting =>
          cases inserting with
          | cons _ replies rest =>
              cases replies with
              | inserted accepted =>
                  refine rest.grows.knows ⟨.user, ?_⟩
                  rw [UserTable.find?_insert accepted, if_pos rfl]
                  rfl
              | failed _ _ failed => cases failed
              | elsewhere elsewhere => cases elsewhere

end Manager

namespace Http

variable {request : Request}

/-! ## What a request to register comes to -/

/-- Where a session is not stored, its store is at fault. -/
def FaultsOnly (turns : List Turn) : Prop :=
  ∀ token identity lifetime error, ⟨.putSession token identity lifetime, .error error⟩ ∈ turns →
    ∃ fault, error = .internal fault

/-- What signing in to an account comes to: the session handed out has been stored for the account,
or a fault is told, which is that of the store, that of finding an end for the session, or that of
drawing a token for it. -/
inductive SignsIn (manager : Manager) (id : UserId) (turns : List Turn) : Response → Prop where
  | issued {session : Session} {role : Role} {lifetime : Time.Lifetime}
      (put : ⟨.putSession session.token ⟨id, role⟩ lifetime, .ok ()⟩ ∈ turns) :
      SignsIn manager id turns (handingOut id session.token session.expiresAt)
  | unstored {token : String} {role : Role} {lifetime : Time.Lifetime} {fault : Fault}
      (put : ⟨.putSession token ⟨id, role⟩ lifetime, .error (.internal fault)⟩ ∈ turns) :
      SignsIn manager id turns (failureResponse (.internal fault))
  | endless {now : Time.Instant} {fault : Fault} (timed : ⟨.readClock, now⟩ ∈ turns)
      (closed : ¬ manager.CanOpen now) :
      SignsIn manager id turns (failureResponse (.internal fault))
  | undrawn {report : String} (drawn : ⟨.drawToken, .error report⟩ ∈ turns) :
      SignsIn manager id turns (failureResponse (.internal (.tokenDraw report)))

/-- The store of sessions, the end of a session and the random source allow what is asked for. -/
structure Allows (manager : Manager) (turns : List Turn) : Prop where
  stores : ∀ token identity lifetime error,
    ⟨.putSession token identity lifetime, .error error⟩ ∉ turns
  ends : ∀ now, ⟨.readClock, now⟩ ∈ turns → manager.CanOpen now
  draws : ∀ report, ⟨.drawToken, .error report⟩ ∉ turns

theorem SignsIn.of_allows {id : UserId} {response : Response}
    (signsIn : SignsIn manager id turns response) (allows : Allows manager turns) :
    ∃ token expires, response = handingOut id token expires := by
  cases signsIn with
  | issued put => exact ⟨_, _, rfl⟩
  | unstored put => exact absurd put (allows.stores _ _ _ _)
  | endless timed closed => exact absurd (allows.ends _ timed) closed
  | undrawn drawn => exact absurd drawn (allows.draws _)

theorem SignsIn.status {id : UserId} {response : Response}
    (signsIn : SignsIn manager id turns response) :
    response.status = 200 ∨ response.status = 500 := by
  cases signsIn with
  | issued put => exact .inl rfl
  | unstored put => exact .inr rfl
  | endless timed closed => exact .inr rfl
  | undrawn drawn => exact .inr rfl

theorem SignsIn.of_enters {owner : User} {outcome : Except AuthError (Session × UserId)}
    (enters : manager.Enters owner turns outcome) (faults : FaultsOnly turns)
    {give : Session × UserId → Response}
    (gives : ∀ session,
      give (session, owner.id) = handingOut owner.id session.token session.expiresAt) :
    SignsIn manager owner.id turns (responseOf (outcome.map give)) := by
  cases enters with
  | stored put =>
      rw [Except.map, responseOf, gives]
      exact .issued put
  | unstored put =>
      obtain ⟨fault, rfl⟩ := faults _ _ _ _ put
      exact .unstored put
  | endless timed closed => exact .endless timed closed
  | undrawn drawn => exact .undrawn drawn

theorem not_inserts_of_asks {result : Except AuthError Identity}
    (asks : Gate.Asks (Cookie.carrier? request.headers) turns result) (row : UserRow)
    (answer : Except AuthError UserId) : ⟨.insertUser row, answer⟩ ∉ turns := by
  intro member
  obtain ⟨token, same⟩ := asks.exists_getSession member
  cases same

/-- After a request has inserted an account, its login finds the account and accepts the
password. -/
theorem RegisterCourse.of_inserted {result : Except AuthError Response}
    (course : RegisterCourse manager request turns result)
    (hosts : table.Hosts faulty turns after) {row : UserRow} {id : UserId}
    (inserted : ⟨.insertUser row, .ok id⟩ ∈ turns) :
    ∃ user, presentedUser request = .ok user ∧ row.email = user.email ∧
      manager.hasher.verifies (Octets.ofText user.password) row.password = true ∧
      after.Knows user.email (row.withId id) ∧
      ((faulty ∧ ∃ fault, result = .error (.internal fault)) ∨
        (∃ role, ⟨.findUser user.email, .ok ((row.withId id).withRole role)⟩ ∈ turns) ∧
          ∃ outcome, manager.Enters (row.withId id) turns outcome ∧
            result = outcome.map fun (session, _) =>
              handingOut id session.token session.expiresAt) := by
  cases course with
  | live asks => exact absurd inserted (not_inserts_of_asks asks row _)
  | unfit asks unfit => exact absurd inserted (not_inserts_of_asks asks row _)
  | unopened asks presented registers =>
      rcases List.mem_append.mp inserted with inGate | inOpening
      · exact absurd inGate (not_inserts_of_asks asks row _)
      · obtain ⟨_, _, -, -, same, -⟩ := registers.eq_of_inserted inOpening
        cases same
  | @answered gate opening talk refusal user given outcome asks presented registers logsIn =>
      have inOpening : ⟨.insertUser row, .ok id⟩ ∈ opening := by
        rcases List.mem_append.mp inserted with inGate | behind
        · exact absurd inGate (not_inserts_of_asks asks row _)
        · rcases List.mem_append.mp behind with inOpening | inTalk
          · exact inOpening
          · exact absurd inTalk (logsIn.not_inserts row _)
      -- From the insertion on the table only grows, so that the login still finds the account.
      obtain ⟨opened, -, later⟩ := hosts.split
      obtain ⟨entered, opens, talks⟩ := later.split
      have known := registers.knows_of_hosts opens inOpening
      obtain ⟨salt, record, records, rfl, same, -⟩ := registers.eq_of_inserted inOpening
      cases same
      refine ⟨user, presented, rfl, records.right, talks.grows.knows known, ?_⟩
      have within : talk ⊆ gate ++ (opening ++ talk) :=
        List.subset_append_of_subset_right _ (List.subset_append_right _ _)
      rcases logsIn.enters talks known records.right with ⟨isFaulty, fault, rfl⟩ |
        ⟨⟨role, found⟩, enters⟩
      · exact .inl ⟨isFaulty, fault, rfl⟩
      · exact .inr ⟨⟨role, within found⟩, outcome, enters.of_subset within, rfl⟩

/-- A login with the right password signs in to an account that is there, if the caller has no live
session. -/
theorem LoginCourse.signsIn {result : Except AuthError Response} {credentials : Credentials}
    {owner : User} (course : LoginCourse manager request turns result)
    (faults : FaultsOnly turns) (hosts : table.Hosts False turns after)
    (lifeless : ∀ token identity, ⟨.getSession token, .ok identity⟩ ∈ turns → identity.userId = 0)
    (presented : presentedCredentials request = .ok credentials)
    (known : table.Knows credentials.email owner)
    (right : manager.hasher.verifies (Octets.ofText credentials.password) owner.password = true) :
    SignsIn manager owner.id turns (responseOf result) := by
  cases course with
  | live asks =>
      obtain ⟨token, -, -, rfl, somebody⟩ := asks.eq_of_ok rfl
      exact absurd (lifeless token _ List.mem_cons_self) somebody
  | unfit asks unfit => cases unfit.symm.trans presented
  | @answered gate talk refusal other outcome asks same logsIn =>
      cases same.symm.trans presented
      obtain ⟨opened, grows, talks⟩ := hosts.split
      rcases logsIn.enters talks (grows.grows.knows known) right with ⟨impossible, -⟩ |
        ⟨⟨role, found⟩, enters⟩
      · exact impossible.elim
      · have within := enters.of_subset (List.subset_append_right gate talk)
        exact SignsIn.of_enters within faults fun _ => rfl

/-- What holds of a request that has inserted an account: its login found the very account and
accepted the password, so that it signed in, and a later login with what was presented signs in to
the same account. -/
structure Coheres (manager : Manager) (user : NewUser) (row : UserRow) (id : UserId)
    (turns : List Turn) (response : Response) (after : UserTable) : Prop where
  email : row.email = user.email
  found : ∃ role, ⟨.findUser user.email, .ok ((row.withId id).withRole role)⟩ ∈ turns
  right : manager.hasher.verifies (Octets.ofText user.password) row.password = true
  signsIn : SignsIn manager id turns response
  status : response.status = 200 ∨ response.status = 500
  stays : after.Knows user.email (row.withId id)
  /-- A caller without a live session logs in later, whatever else is done in between. -/
  later : ∀ (more : List Route) (other : Manager) (request : Request) (talk : List Turn)
    (answer : Response) (finish : UserTable), other.hasher = manager.hasher →
    request.Posts "/login" → presentedCredentials request = .ok user.credentials →
    (∀ token identity, ⟨.getSession token, .ok identity⟩ ∈ talk → identity.userId = 0) →
    ((Router.withGated more).answer other request).Converses talk answer →
    after.Hosts False talk finish → FaultsOnly talk →
    SignsIn other id talk answer ∧ (Allows other talk → answer.status = 200)

/-- Whatever others do to the table of accounts during a request to register, as long as the store
of sessions fails with faults only: if the request has inserted an account, its login agrees with
its registration; and if it does not end by signing in to an account, it has left the table as it
was. -/
theorem registration_coheres {more : List Route} {response : Response}
    (posts : request.Posts "/register")
    (converses : ((Router.withGated more).answer manager request).Converses turns response)
    (hosts : table.Hosts False turns after) (faults : FaultsOnly turns) :
    (∀ row id, ⟨.insertUser row, .ok id⟩ ∈ turns →
      ∃ user, presentedUser request = .ok user ∧
        Coheres manager user row id turns response after) ∧
    ((∀ id, ¬ SignsIn manager id turns response) →
      ∀ turn ∈ turns, ∀ before next : UserTable, before.Replies False turn next → next = before) := by
  obtain ⟨result, course, rfl⟩ := converses_answer_register posts converses
  have coheres : ∀ row id, ⟨.insertUser row, .ok id⟩ ∈ turns →
      ∃ user, presentedUser request = .ok user ∧
        Coheres manager user row id turns (responseOf result) after := by
    intro row id inserted
    obtain ⟨user, presented, email, right, stays, ⟨impossible, -⟩ | ⟨found, _, enters, same⟩⟩ :=
      course.of_inserted hosts inserted
    · exact impossible.elim
    have signsIn : SignsIn manager id turns (responseOf result) := by
      rw [same]
      exact SignsIn.of_enters enters faults fun _ => rfl
    refine ⟨user, presented, email, found, right, signsIn, signsIn.status, stays, ?_⟩
    intro more other request talk answer finish sameHasher posts again lifeless converses hosts
      faults
    obtain ⟨result, course, rfl⟩ := converses_answer_login posts converses
    have entered := course.signsIn faults hosts lifeless again stays (sameHasher ▸ right)
    refine ⟨entered, fun allows => ?_⟩
    obtain ⟨token, expires, same⟩ := entered.of_allows allows
    rw [same]
    rfl
  refine ⟨coheres, fun unsigned turn member before next replies => ?_⟩
  refine replies.eq_of_not_inserted fun row id same => ?_
  obtain ⟨user, -, agrees⟩ := coheres row id (same ▸ member)
  exact unsigned id agrees.signsIn

/-! ## A first registration -/

/-- A request to register the owner, from a caller without a cookie. -/
def firstRequest : Request :=
  ⟨"POST", "/register", [⟨"Content-Type", Octets.ofText "application/json"⟩],
    Octets.ofText "\x7b\"email\":\"a@b.c\",\"password\":\"b\"\x7d"⟩

theorem presentedUser_firstRequest : presentedUser firstRequest = .ok ⟨"a@b.c", "b", none⟩ := by
  cbv

/-- The row that the first request inserts. -/
def firstRow : UserRow :=
  ⟨"a@b.c", none, User.owner.password, .user⟩

theorem carrier?_firstRequest : Cookie.carrier? firstRequest.headers = none := by
  decide +kernel

/-- The turns of the first request, where the store of sessions makes of the new session what is
said. -/
def firstTurns (token : String) (lifetime : Time.Lifetime) (stored : Except AuthError Unit) :
    List Turn :=
  [⟨.emailTaken "a@b.c", .ok false⟩, ⟨.drawSalt, .ok (.replicate 8 0)⟩,
    ⟨.insertUser firstRow, .ok 1⟩, ⟨.findUser "a@b.c", .ok .owner⟩, ⟨.readClock, .epoch⟩,
    ⟨.drawToken, .ok (.replicate 32 0)⟩, ⟨.putSession token ⟨1, .user⟩ lifetime, stored⟩]

variable {stored : Except AuthError Unit}

theorem registers_storing {result : Except AuthError UserId}
    (registers : Manager.cheap.Registers ⟨"a@b.c", "b", none⟩ turns result)
    (answered : ∀ turn ∈ turns, turn.2 = (Surroundings.storing stored turn.1 ()).1) :
    turns = [⟨.emailTaken "a@b.c", .ok false⟩, ⟨.drawSalt, .ok (.replicate 8 0)⟩,
      ⟨.insertUser firstRow, .ok 1⟩] ∧ result = .ok 1 := by
  cases registers with
  | nothing empty => cases empty
  | unknown something error => cases answered _ List.mem_cons_self
  | taken something => cases answered _ List.mem_cons_self
  | free something provisions =>
      cases provisions with
      | unsalted report => cases answered _ (List.mem_cons_of_mem _ List.mem_cons_self)
      | unhashable salt long => exact absurd long (by decide)
      | inserted salt made records =>
          cases answered _ (List.mem_cons_of_mem _ List.mem_cons_self)
          obtain rfl : result = .ok 1 :=
            answered _ (List.mem_cons_of_mem _ (List.mem_cons_of_mem _ List.mem_cons_self))
          cases Hasher.record_owner.symm.trans made
          exact ⟨rfl, rfl⟩

theorem logsIn_storing {result : Except AuthError (Session × UserId)}
    (logsIn : Manager.cheap.LogsIn ⟨"a@b.c", "b"⟩ turns result)
    (answered : ∀ turn ∈ turns, turn.2 = (Surroundings.storing stored turn.1 ()).1) :
    ∃ (session : Session) (lifetime : Time.Lifetime),
      session.token = Token.ofBytes (.replicate 32 0) ∧
      turns = [⟨.findUser "a@b.c", .ok .owner⟩, ⟨.readClock, .epoch⟩,
        ⟨.drawToken, .ok (.replicate 32 0)⟩,
        ⟨.putSession session.token ⟨1, .user⟩ lifetime, stored⟩] ∧
      result = stored.map fun _ => (session, 1) := by
  have second {first next : Turn} {rest : List Turn} : next ∈ first :: next :: rest := by simp
  have third {first other next : Turn} {rest : List Turn} :
      next ∈ first :: other :: next :: rest := by simp
  cases logsIn with
  | unknown error => cases answered _ List.mem_cons_self
  | wrong wrong =>
      cases answered _ List.mem_cons_self
      cases Hasher.verifies_owner.symm.trans wrong
  | undrawn now report right => cases answered _ third
  | @unopened user now error bytes right refused =>
      obtain rfl : now = .epoch := answered _ second
      have opens : Manager.cheap.CanOpen .epoch :=
        (Manager.canOpen_iff rfl).mpr ⟨⟨_, rfl⟩, by decide⟩
      obtain ⟨opened, accepted⟩ := Manager.exists_openSession_iff.mpr opens
      cases refused.symm.trans accepted
  | @stored user now bytes session lifetime answer right opened =>
      cases answered _ List.mem_cons_self
      obtain rfl : now = .epoch := answered _ second
      cases answered _ third
      obtain rfl : answer = stored :=
        answered ⟨.putSession session.token session.identity lifetime, answer⟩ (by simp)
      obtain ⟨token, identity, -⟩ := Manager.eq_of_openSession opened
      rw [identity]
      exact ⟨session, lifetime, token, rfl, rfl⟩

/-- The first request inserts an account, and its login asks for the session to be stored. -/
theorem converses_firstRequest (stored : Except AuthError Unit) :
    ∃ (session : Session) (lifetime : Time.Lifetime),
      session.token = Token.ofBytes (.replicate 32 0) ∧
      ((Router.withGated []).answer .cheap firstRequest).Converses
        (firstTurns session.token lifetime stored)
        (responseOf (stored.map fun _ => handingOut 1 session.token session.expiresAt)) := by
  have converses := Program.converses_transcript (.storing stored)
    ((Router.withGated []).answer .cheap firstRequest) ()
  obtain ⟨result, course, response⟩ := converses_answer_register ⟨rfl, rfl⟩ converses
  have answered : ∀ turn ∈ Program.transcript (.storing stored)
      ((Router.withGated []).answer .cheap firstRequest) (),
      turn.2 = (Surroundings.storing stored turn.1 ()).1 :=
    fun _ => Surroundings.answer_of_mem_transcript
  rw [response] at converses
  generalize Program.transcript _ _ _ = turns at course answered converses
  clear response
  cases course with
  | live asks =>
      obtain ⟨token, carried, -⟩ := asks.eq_of_ok rfl
      cases carrier?_firstRequest.symm.trans carried
  | unfit asks unfit => cases presentedUser_firstRequest.symm.trans unfit
  | unopened asks presented registers =>
      cases presentedUser_firstRequest.symm.trans presented
      cases (registers_storing registers fun turn member =>
        answered turn (List.mem_append_right _ member)).2
  | @answered gate opening talk refusal user id outcome asks presented registers logsIn =>
      cases presentedUser_firstRequest.symm.trans presented
      rw [carrier?_firstRequest] at asks
      obtain rfl := asks.eq_nil
      rw [List.nil_append] at answered converses
      obtain ⟨rfl, same⟩ := registers_storing registers fun turn member =>
        answered turn (List.mem_append_left _ member)
      cases same
      obtain ⟨session, lifetime, token, rfl, rfl⟩ := logsIn_storing logsIn fun turn member =>
        answered turn (List.mem_append_right _ member)
      refine ⟨session, lifetime, token, ?_⟩
      cases stored <;> exact converses

theorem hosts_firstTurns (token : String) (lifetime : Time.Lifetime)
    (stored : Except AuthError Unit) :
    UserTable.empty.Hosts False (firstTurns token lifetime stored) ⟨1, [.owner]⟩ :=
  .cons .refl (.told "a@b.c") (.cons .refl (.elsewhere rfl) (.cons .refl (.inserted rfl)
    (.cons .refl (.found rfl) (.of_elsewhere (by simp [Question.isOnAccounts])))))

theorem inserted_mem_firstTurns (token : String) (lifetime : Time.Lifetime)
    (stored : Except AuthError Unit) :
    ⟨.insertUser firstRow, .ok 1⟩ ∈ firstTurns token lifetime stored := by
  simp [firstTurns]

/-- The first registration of all, with what it asked of an empty table. -/
theorem first_registration_coheres :
    ∃ turns response after,
      ((Router.withGated []).answer .cheap firstRequest).Converses turns response ∧
      UserTable.empty.Hosts False turns after ∧ ⟨.insertUser firstRow, .ok 1⟩ ∈ turns ∧
      ∃ user, presentedUser firstRequest = .ok user ∧
        Coheres .cheap user firstRow 1 turns response after := by
  obtain ⟨session, lifetime, -, converses⟩ := converses_firstRequest (.ok ())
  have hosts := hosts_firstTurns session.token lifetime (.ok ())
  have inserted := inserted_mem_firstTurns session.token lifetime (.ok ())
  have faults : FaultsOnly (firstTurns session.token lifetime (.ok ())) := by
    simp [FaultsOnly, firstTurns]
  have coheres := registration_coheres ⟨rfl, rfl⟩ converses hosts faults
  exact ⟨_, _, _, converses, hosts, inserted, coheres.1 firstRow 1 inserted⟩

/-- Over a store of sessions that refuses a new session with anything but a fault, a request that
has inserted its account is answered as if it had found nothing. And where the store keeps nothing
of what it accepts and takes every token for nobody's, the token that the request hands out does
not speak for the account. -/
theorem unsound_session_stores_break_registration :
    (∃ turns response after,
      ((Router.withGated []).answer .cheap firstRequest).Converses turns response ∧
      UserTable.empty.Hosts False turns after ∧ ⟨.insertUser firstRow, .ok 1⟩ ∈ turns ∧
      response.status = 404) ∧
    ∃ turns after token expires,
      ((Router.withGated []).answer .cheap firstRequest).Converses turns
        (handingOut 1 token expires) ∧
      UserTable.empty.Hosts False turns after ∧ ⟨.insertUser firstRow, .ok 1⟩ ∈ turns ∧
      (Manager.resolve token).Converses [⟨.getSession token, .ok ⟨0, .user⟩⟩]
        (.ok ⟨0, .user⟩) := by
  constructor
  · obtain ⟨session, lifetime, -, converses⟩ := converses_firstRequest (.error .notFound)
    exact ⟨_, _, _, converses, hosts_firstTurns _ _ _, inserted_mem_firstTurns _ _ _, rfl⟩
  · obtain ⟨session, lifetime, token, converses⟩ := converses_firstRequest (.ok ())
    refine ⟨_, _, session.token, session.expiresAt, converses, hosts_firstTurns _ _ _,
      inserted_mem_firstTurns _ _ _, Manager.converses_resolve_of_asked ?_⟩
    rw [token, Token.isEmpty_ofBytes]

end Http

end SessionGate
