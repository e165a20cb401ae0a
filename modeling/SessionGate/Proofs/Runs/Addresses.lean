import SessionGate.Proofs.Http.Addresses
import SessionGate.Proofs.Runs.Privilege

/-!
# Accounts and the emails that lead to them

Requests, sweeps and moves of the clock put accounts into the table, one for an address, and take
none away. An account that a request inserts has the email that the request presents, trimmed and
checked to be an address. So all emails in the table are addresses, and requests that are accepted
are for the same account if and only if they present the same email but for blanks around it.
-/

namespace SessionGate

open Http

/-! ## Acts from outside -/

/-- All emails in the table are addresses. -/
def UserTable.HoldsAddresses (table : UserTable) : Prop :=
  ∀ user ∈ table.users, ∃ address : Email.Address, address.text = user.email

namespace World

variable {world : World} {act : Act} {acts : List Act}

theorem follows_requested (manager : Manager) (request : Request) (world : World) :
    world.core.Follows ((Router.standard.answer manager request).transcript Core.answer world.core)
      (world.run (Router.standard.answer manager request)).2.core := by
  rw [core_run_snd]
  exact Core.follows_transcript _ _

/-- Nothing from outside but a request is about accounts. -/
theorem requested_or_users_eq (outside : act.IsFromOutside) (world : World) :
    (∃ manager request, act = .requested .standard manager request) ∨
      (act.perform world).2.users = world.users := by
  cases act with
  | requested router manager request =>
      obtain rfl : router = .standard := outside
      exact .inl ⟨manager, request, rfl⟩
  | made call =>
      cases call with
      | sweep => exact .inr rfl
      | _ => exact outside.elim
  | setClock now => exact .inr rfl
  | advance span =>
      right
      simp only [Act.perform, World.advance]
      cases world.now.add? span <;> rfl
  | _ => exact outside.elim

theorem subset_perform (sound : world.core.IsSound) (outside : act.IsFromOutside) :
    world.users.users ⊆ (act.perform world).2.users.users := by
  rcases requested_or_users_eq outside world with ⟨manager, request, rfl⟩ | same
  · exact (follows_requested manager request world).subset sound
  · rw [same]
    exact List.Subset.refl _

theorem holdsAddresses_perform (sound : world.core.IsSound) (outside : act.IsFromOutside)
    (holds : world.users.HoldsAddresses) : (act.perform world).2.users.HoldsAddresses := by
  rcases requested_or_users_eq outside world with ⟨manager, request, rfl⟩ | same
  · intro user member
    have follows := follows_requested manager request world
    rcases follows.mem_users sound member with earlier | ⟨row, id, inserted, rfl⟩
    · exact holds user earlier
    · have converses :=
        (Router.standard.answer manager request).converses_transcript Core.answer world.core
      exact (converses_answer converses).address_of_inserted (follows.hosts sound) inserted
  · rw [same]
    exact holds

theorem isRegular_enact (regular : world.core.IsRegular) (acts : List Act) :
    (world.enact acts).core.IsRegular :=
  enact_induction (fun world => world.core.IsRegular) (fun act _ _ regular => regular.perform act)
    regular fun _ _ => trivial

theorem subset_enact (regular : world.core.IsRegular)
    (outside : ∀ act ∈ acts, act.IsFromOutside) :
    world.users.users ⊆ (world.enact acts).users.users := by
  induction acts generalizing world with
  | nil => exact List.Subset.refl _
  | cons act acts ih =>
      have first := subset_perform regular.sound (outside act List.mem_cons_self)
      have later := ih (regular.perform act) fun other member =>
        outside other (List.mem_cons_of_mem _ member)
      exact List.Subset.trans first later

theorem holdsAddresses_enact (regular : world.core.IsRegular)
    (outside : ∀ act ∈ acts, act.IsFromOutside) (holds : world.users.HoldsAddresses) :
    (world.enact acts).users.HoldsAddresses := by
  refine (enact_induction (fun world => world.core.IsRegular ∧ world.users.HoldsAddresses)
    (fun act world outside invariant => ?_) ⟨regular, holds⟩ outside).2
  exact ⟨invariant.1.perform act, holdsAddresses_perform invariant.1.sound outside invariant.2⟩

end World

/-! ## Runs -/

/-- A request of a run that presents an email, to log in or to open an account, and is accepted. -/
structure Acceptance (world : World) (acts : List Act) where
  before : List Act
  rest : List Act
  manager : Manager
  request : Request
  email : String
  split : acts = before ++ .requested .standard manager request :: rest
  presents : request.Presents email
  accepted : ((world.enact before).run (Router.standard.answer manager request)).1.status = 200

namespace Acceptance

variable {world : World} {acts : List Act} {user : User}

def response (acceptance : Acceptance world acts) : Response :=
  ((world.enact acceptance.before).run
    (Router.standard.answer acceptance.manager acceptance.request)).1

/-- The account that the store has found for the request. -/
def IsFor (acceptance : Acceptance world acts) (user : User) : Prop :=
  ∃ key, ⟨.findUser key, .ok user⟩ ∈
    (Router.standard.answer acceptance.manager acceptance.request).transcript Core.answer
      (world.enact acceptance.before).core

theorem converses (acceptance : Acceptance world acts) :
    (Router.standard.answer acceptance.manager acceptance.request).Converses
      ((Router.standard.answer acceptance.manager acceptance.request).transcript Core.answer
        (world.enact acceptance.before).core) acceptance.response := by
  rw [response, World.run_fst]
  exact Program.converses_transcript Core.answer _ _

variable (acceptance : Acceptance world acts) (regular : world.core.IsRegular)

include regular

theorem exists_isFor :
    ∃ user token expires, acceptance.IsFor user ∧
      acceptance.response = handingOut user.id token expires := by
  obtain ⟨user, key, token, expires, found, response⟩ :=
    exists_account (World.isRegular_enact regular acceptance.before) acceptance.presents
      acceptance.converses (World.follows_requested _ _ _) acceptance.accepted
  exact ⟨user, token, expires, ⟨key, found⟩, response⟩

/-- The account is in the table when the request has been answered, and in the end. -/
theorem IsFor.mem {acceptance : Acceptance world acts} (isFor : acceptance.IsFor user)
    (outside : ∀ act ∈ acts, act.IsFromOutside) :
    user ∈ (world.enact acts).users.users ∧ user.email = Text.trim acceptance.email := by
  obtain ⟨key, found⟩ := isFor
  have answered := World.isRegular_enact regular acceptance.before
  obtain ⟨member, named⟩ := (World.follows_requested _ _ _).mem_of_found answered.sound found
  rw [key_of_presents acceptance.presents acceptance.converses found] at named
  have later : ∀ act ∈ acceptance.rest, act.IsFromOutside := by
    intro act inside
    apply outside
    rw [acceptance.split]
    exact List.mem_append_right _ (List.mem_cons_of_mem _ inside)
  have stays := World.subset_enact (answered.perform
    (.requested .standard acceptance.manager acceptance.request)) later member
  rw [← World.enact_cons, ← World.enact_append, ← acceptance.split] at stays
  exact ⟨stays, named⟩

end Acceptance

/-- The emails of a run's accounts are addresses and have nothing to trim, and an email leads to an
account by what is left of it when it is trimmed, letter by letter. -/
structure SortsByAddress (world : World) (acts : List Act) : Prop where
  addresses : ∀ user ∈ (world.enact acts).users.users,
    (∃ address : Email.Address, address.text = user.email) ∧ Text.trim user.email = user.email
  accounts : ∀ acceptance : Acceptance world acts, ∃ user ∈ (world.enact acts).users.users,
    acceptance.IsFor user ∧ user.email = Text.trim acceptance.email ∧
      ∃ token expires, acceptance.response = handingOut user.id token expires
  same : ∀ (first second : Acceptance world acts) (user other : User),
    first.IsFor user → second.IsFor other →
      (user = other ↔ Text.trim first.email = Text.trim second.email)
  ids : (world.enact acts).users.size < 2 ^ 63 →
    ∀ (first second : Acceptance world acts) (user other : User),
      first.IsFor user → second.IsFor other →
        (user.id = other.id ↔ Text.trim first.email = Text.trim second.email)

theorem World.sortsByAddress {world : World} {acts : List Act} (regular : world.core.IsRegular)
    (holds : world.users.HoldsAddresses) (outside : ∀ act ∈ acts, act.IsFromOutside) :
    SortsByAddress world acts := by
  have numbered := (World.isRegular_enact regular acts).numbered
  have same (first second : Acceptance world acts) (user other : User)
      (isFirst : first.IsFor user) (isSecond : second.IsFor other) :
      user = other ↔ Text.trim first.email = Text.trim second.email := by
    obtain ⟨member, named⟩ := isFirst.mem regular outside
    obtain ⟨otherMember, otherNamed⟩ := isSecond.mem regular outside
    rw [← named, ← otherNamed]
    exact ⟨congrArg User.email, List.inj_on_of_nodup_map numbered.emails member otherMember⟩
  refine ⟨?_, ?_, same, ?_⟩
  · intro user member
    obtain ⟨address, text⟩ := holdsAddresses_enact regular outside holds user member
    exact ⟨⟨address, text⟩, by rw [← text, address.trim_text]⟩
  · intro acceptance
    obtain ⟨user, token, expires, isFor, response⟩ := acceptance.exists_isFor regular
    obtain ⟨member, named⟩ := isFor.mem regular outside
    exact ⟨user, member, isFor, named, token, expires, response⟩
  · intro few first second user other isFirst isSecond
    rw [← same first second user other isFirst isSecond]
    exact ⟨List.inj_on_of_nodup_map (numbered.distinct_ids few) (isFirst.mem regular outside).1
      (isSecond.mem regular outside).1, congrArg User.id⟩

/-- Emails are trimmed on the way in: blanks around them make no difference to any request to log in
or to open an account, and in a run of requests, sweeps and moves of the clock the trimmed emails
are addresses, by which accounts are told apart. -/
theorem emails_are_canonical :
    (∀ (more : List Route) (manager : Manager) (first second : Request), first.Pads second →
      ∀ world : World, world.run ((Router.withGated more).answer manager first) =
        world.run ((Router.withGated more).answer manager second)) ∧
    ∀ (now : Time.Instant) (salts : Nat → Salt) (tokens : Nat → TokenBytes) (acts : List Act),
      (∀ act ∈ acts, act.IsFromOutside) → SortsByAddress (World.start now salts tokens) acts := by
  constructor
  · intro more manager first second pads world
    rw [pads.answer_eq more manager]
  · intro now salts tokens acts outside
    have regular := (Core.IsReachable.start now salts tokens).isRegular
    exact World.sortsByAddress regular (fun _ member => nomatch member) outside

/-! ## Two requests of the owner -/

/-- A stranger who opens an account is handed the session that has been opened for it. -/
theorem Core.run_answer_of_register {manager : Manager} {request : Request} {user : NewUser}
    {session : Session} {id owner : UserId} {core opened after : Core}
    (posts : request.Posts "/register") (stranger : Cookie.carrier? request.headers = none)
    (presented : presentedUser request = .ok user)
    (registered : core.attempt (manager.register user) = (.ok id, opened))
    (entered : opened.attempt (manager.login user.credentials) = (.ok (session, owner), after)) :
    core.run (Router.standard.answer manager request) =
      (handingOut id session.token session.expiresAt, after) := by
  have refused : core.attempt (Gate.authenticate none) = (.error .unauthorized, core) := rfl
  have handed := Core.sessionResponse_of_attempt (congrArg Prod.fst entered) id
  have comes : core.attempt (registerWith manager user) =
      (.ok (handingOut id session.token session.expiresAt), after) := by
    rw [registerWith, Core.attempt_bind, registered]
    dsimp only
    rw [Core.attempt_bind, entered]
    dsimp only
    rw [Core.attempt_bind, Core.attempt_logService]
    dsimp only
    rw [Core.attempt_settle, handed]
  rw [Router.standard, answer_register_eq posts, presented, run_guardedAnswer, stranger, refused]
  dsimp only
  rw [strangerAnswer, Core.run_bind, Core.run_respond, comes]
  exact Core.run_finish true request _ after

namespace Http

/-- A request of the owner to log in, with blanks around the email. -/
def paddedRequest : Request :=
  { loginRequest with
    body := Octets.ofText "\x7b\"email\":\"\u3000a@b.c\\n\",\"password\":\"b\"\x7d" }

theorem readBody_firstRequest :
    readBody NewUser.read firstRequest = .ok ⟨"a@b.c", "b", none⟩ := by
  cbv

theorem readBody_loginRequest :
    readBody Credentials.read loginRequest = .ok ⟨"a@b.c", "b"⟩ := by
  cbv

theorem readBody_paddedRequest :
    readBody Credentials.read paddedRequest = .ok ⟨"\u3000" ++ "a@b.c" ++ "\n", "b"⟩ := by
  cbv

theorem paddedRequest_pads : paddedRequest.Pads loginRequest := by
  have blank : Text.IsBlankText "\u3000" ∧ Text.IsBlankText "\n" := by
    simp [Text.IsBlankText, Text.isBlank]
  exact .login ⟨⟨rfl, rfl⟩, ⟨rfl, rfl⟩, rfl⟩ blank.1 blank.2 readBody_paddedRequest
    readBody_loginRequest

theorem presentedCredentials_paddedRequest :
    presentedCredentials paddedRequest = .ok ⟨"a@b.c", "b"⟩ := by
  cbv

/-- A service to which nothing has been done yet. -/
def newWorld : World :=
  .start .epoch (fun _ => .replicate 8 0) fun _ => .replicate 32 0

theorem attempt_register_owner :
    newWorld.core.attempt (Manager.cheap.register ⟨"a@b.c", "b", none⟩) =
      (.ok 1, { newWorld.core.saltDrawn with users := ⟨1, [.owner]⟩ }) := by
  have made : Manager.cheap.hasher.record (Octets.ofText "b")
      (newWorld.core.random.salts newWorld.core.random.saltsGiven).toList =
        .ok User.owner.password := Hasher.record_owner
  rw [Core.attempt_register rfl, if_neg (by decide), if_neg (by decide), Core.attempt_provision rfl]
  dsimp only
  rw [made]
  rfl

theorem exists_login_owner (core : Core) (sound : core.IsSound) (now : core.now = .epoch)
    (known : core.users.find? "a@b.c" = some .owner) :
    ∃ session expires, core.attempt (Manager.cheap.login ⟨"a@b.c", "b"⟩) =
      (.ok (session, 1), { core.tokenDrawn with
        sessions := core.sessions.insert session.token ⟨session.identity.encode, expires⟩ }) := by
  have canOpen : Manager.cheap.CanOpen core.now := by
    rw [now]
    exact ⟨_, rfl, by decide +kernel⟩
  obtain ⟨⟨session, lifetime⟩, opened⟩ :
      ∃ opened, Manager.cheap.openSession .owner core.now core.nextToken = .ok opened :=
    Manager.exists_openSession_iff.mpr canOpen
  obtain ⟨expires, expiry, -⟩ := Manager.exists_expiry_of_openSession opened
  have notBlank : session.token.isEmpty = false :=
    (Manager.eq_of_openSession opened).1 ▸ Token.isEmpty_ofBytes _
  exact ⟨session, some expires,
    Core.login_ok_of_expiry sound known Hasher.verifies_owner opened notBlank expiry⟩

/-- The first request of the owner is accepted. -/
theorem run_firstRequest :
    ∃ token expires after,
      newWorld.core.run (Router.standard.answer .cheap firstRequest) =
        (handingOut 1 token expires, after) ∧
      after.IsSound ∧ after.now = .epoch ∧ after.users.find? "a@b.c" = some .owner := by
  obtain ⟨session, expires, entered⟩ := exists_login_owner
    { newWorld.core.saltDrawn with users := ⟨1, [.owner]⟩ } ⟨rfl, rfl⟩ rfl rfl
  exact ⟨_, _, _, Core.run_answer_of_register ⟨rfl, rfl⟩ carrier?_firstRequest
    presentedUser_firstRequest attempt_register_owner entered, ⟨rfl, rfl⟩, rfl, rfl⟩

/-- The owner opens an account and then logs in, with blanks around the email. -/
def ownersActs : List Act :=
  [.requested .standard .cheap firstRequest, .requested .standard .cheap paddedRequest]

theorem exists_acceptances :
    ∃ first second : Acceptance newWorld ownersActs,
      first.email = "a@b.c" ∧ second.email = "\u3000a@b.c\n" := by
  obtain ⟨token, expires, after, answered, sound, now, known⟩ := run_firstRequest
  obtain ⟨session, later, entered⟩ := exists_login_owner after sound now known
  have loggedIn : after.run (Router.standard.answer .cheap paddedRequest) = _ :=
    Core.run_answer_of_login ⟨rfl, rfl⟩ carrier?_firstRequest presentedCredentials_paddedRequest
      entered
  have left : (newWorld.enact [.requested .standard .cheap firstRequest]).core = after :=
    (World.core_run_snd _ newWorld).trans (congrArg Prod.snd answered)
  refine ⟨⟨[], _, .cheap, firstRequest, _, rfl, .register ⟨rfl, rfl⟩ readBody_firstRequest, ?_⟩,
    ⟨[.requested .standard .cheap firstRequest], [], .cheap, paddedRequest, _, rfl,
      .login ⟨rfl, rfl⟩ readBody_paddedRequest, ?_⟩, rfl, rfl⟩
  · rw [World.enact_nil, World.run_fst, answered]
    rfl
  · rw [World.run_fst, left, loggedIn]
    rfl

/-- Blanks around the owner's email make no difference, and the owner logs in to the account that
has been opened. -/
theorem owner_is_known_by_trimmed_email :
    (∀ world : World, world.run (Router.standard.answer .cheap paddedRequest) =
      world.run (Router.standard.answer .cheap loginRequest)) ∧
    SortsByAddress newWorld ownersActs ∧
    ∃ (first second : Acceptance newWorld ownersActs) (user : User),
      first.email ≠ second.email ∧ first.IsFor user ∧ second.IsFor user := by
  obtain ⟨padded, sorted⟩ := emails_are_canonical
  have sorts : SortsByAddress newWorld ownersActs := by
    apply sorted
    simp [ownersActs, Act.IsFromOutside]
  obtain ⟨first, second, plain, blank⟩ := exists_acceptances
  obtain ⟨user, -, isFirst, -⟩ := sorts.accounts first
  obtain ⟨other, -, isSecond, -⟩ := sorts.accounts second
  have same := padded [] .cheap paddedRequest loginRequest paddedRequest_pads
  refine ⟨same, sorts, first, second, user, ?_, isFirst, ?_⟩
  · rw [plain, blank]
    decide
  · rw [(sorts.same first second user other isFirst isSecond).mpr]
    · exact isSecond
    · rw [plain, blank]
      decide

end Http

end SessionGate
