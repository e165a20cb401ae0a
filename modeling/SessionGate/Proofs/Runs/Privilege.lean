import SessionGate.Proofs.Http.Deeds
import SessionGate.Proofs.Http.Responses
import SessionGate.Proofs.Runs.Act

/-!
# Requests give no privilege

Accounts that are opened by requests are those of ordinary users, and sessions keep the role that
their accounts have. So nobody becomes a moderator by requests alone: the entries of all sessions
speak for accounts of ordinary users, and no response says otherwise.
-/

namespace SessionGate

open Http

/-- The call is open to callers of a service: all but the provision of an account, which comes with
a role of its own. -/
def Call.IsOpen : Call → Prop
  | .provision _ _ _ => False
  | _ => True

/-- The act is a request to a service, a sweep or a move of the clock. -/
def Act.IsFromOutside : Act → Prop
  | .requested router _ _ => router = .standard
  | .made .sweep | .setClock _ | .advance _ => True
  | _ => False

/-- All accounts are those of ordinary users, and every entry speaks for one of them. -/
structure Core.Unprivileged (core : Core) : Prop where
  sound : core.IsSound
  roles : ∀ user ∈ core.users.users, user.role = .user
  entries : ∀ key entry, core.sessions.find? key = some entry →
    key.isEmpty = false ∧ ∃ user ∈ core.users.users, entry.value = Identity.encode ⟨user.id, .user⟩

namespace Core.Unprivileged

variable {core after : Core}

theorem start (now : Time.Instant) (salts : Nat → Salt) (tokens : Nat → TokenBytes) :
    (World.start now salts tokens).core.Unprivileged where
  sound := ⟨rfl, rfl⟩
  roles _ member := nomatch member
  entries _ _ found := nomatch found

/-- Fewer entries, and another clock or random source, make no difference. -/
theorem of_fewer (unprivileged : core.Unprivileged) (users : after.users = core.users)
    (userStore : after.userStore = core.userStore)
    (sessionStore : after.sessionStore = core.sessionStore)
    (fewer : ∀ key entry, after.sessions.find? key = some entry →
      core.sessions.find? key = some entry) : after.Unprivileged where
  sound := ⟨userStore.trans unprivileged.sound.users,
    sessionStore.trans unprivileged.sound.sessions⟩
  roles := by
    rw [users]
    exact unprivileged.roles
  entries key entry found := by
    rw [users]
    exact unprivileged.entries key entry (fewer key entry found)

theorem of_insert (unprivileged : core.Unprivileged) {row : UserRow} {id : UserId}
    {users : UserTable} (role : row.role = .user)
    (inserted : core.users.insert row = .ok (id, users)) : { core with users }.Unprivileged := by
  obtain ⟨-, -, -, -, rfl⟩ := UserTable.insert_eq_ok_iff.mp inserted
  obtain ⟨⟨userStore, sessionStore⟩, roles, entries⟩ := unprivileged
  refine ⟨⟨userStore, sessionStore⟩, fun user member => ?_, fun key entry found => ?_⟩
  · rcases List.mem_append.mp member with earlier | newest
    · exact roles user earlier
    · rw [List.mem_singleton.mp newest]
      exact role
  · obtain ⟨notBlank, owner, member, value⟩ := entries key entry found
    exact ⟨notBlank, owner, List.mem_append_left _ member, value⟩

/-- A new entry may speak for an account that there is. -/
theorem of_entry (unprivileged : core.Unprivileged) {user : User} {key : String} {entry : Entry}
    (member : user ∈ core.users.users) (notBlank : key.isEmpty = false)
    (value : entry.value = Identity.encode ⟨user.id, .user⟩) :
    { core with sessions := core.sessions.insert key entry }.Unprivileged := by
  obtain ⟨⟨userStore, sessionStore⟩, roles, entries⟩ := unprivileged
  refine ⟨⟨userStore, sessionStore⟩, roles, fun other stored found => ?_⟩
  rw [ExpiringMap.find?_insert] at found
  split at found
  · rename_i same
    rw [same, ← Option.some.inj found]
    exact ⟨notBlank, user, member, value⟩
  · exact entries other stored found

/-! ## Calls -/

theorem saltDrawn (unprivileged : core.Unprivileged) : core.saltDrawn.Unprivileged :=
  unprivileged.of_fewer rfl rfl rfl fun _ _ found => found

theorem tokenDrawn (unprivileged : core.Unprivileged) : core.tokenDrawn.Unprivileged :=
  unprivileged.of_fewer rfl rfl rfl fun _ _ found => found

theorem provision (unprivileged : core.Unprivileged) (manager : Manager) (user : NewUser) :
    (core.attempt (manager.provision user .user)).2.Unprivileged := by
  rw [attempt_provision unprivileged.sound.users]
  cases manager.hasher.record (Octets.ofText user.password)
      (core.random.salts core.random.saltsGiven).toList with
  | error error => exact unprivileged.saltDrawn
  | ok record =>
      dsimp only
      cases inserted : core.users.insert ⟨user.email, user.name, record, .user⟩ with
      | error error => exact unprivileged.saltDrawn
      | ok pair => exact unprivileged.saltDrawn.of_insert rfl inserted

theorem register (unprivileged : core.Unprivileged) (manager : Manager) (user : NewUser) :
    (core.attempt (manager.register user)).2.Unprivileged := by
  rw [attempt_register unprivileged.sound.users]
  split
  · exact unprivileged
  · split
    · exact unprivileged
    · exact unprivileged.provision manager user

/-- A session that is issued for an account speaks for that account. -/
theorem issue (unprivileged : core.Unprivileged) (manager : Manager) {user : User}
    (member : user ∈ core.users.users) : (core.issue manager user).2.Unprivileged := by
  rw [Core.issue]
  cases opened : manager.openSession user core.now core.nextToken with
  | error error => exact unprivileged.tokenDrawn
  | ok pair =>
      obtain ⟨session, lifetime⟩ := pair
      obtain ⟨-, identity, -, -⟩ := Manager.eq_of_openSession opened
      rw [unprivileged.roles user member] at identity
      cases blank : session.token.isEmpty with
      | true =>
          simp only [blank, if_true]
          exact unprivileged.tokenDrawn
      | false =>
          simp only [blank, Bool.false_eq_true, if_false, ExpiringMap.set]
          cases ExpiringMap.expiry core.now (some lifetime) with
          | error error => exact unprivileged.tokenDrawn
          | ok expires =>
              exact unprivileged.tokenDrawn.of_entry member blank
                (congrArg Identity.encode identity)

theorem login (unprivileged : core.Unprivileged) (manager : Manager) (credentials : Credentials) :
    (core.attempt (manager.login credentials)).2.Unprivileged := by
  rw [attempt_login unprivileged.sound]
  cases found : core.users.find? credentials.email with
  | none => exact unprivileged
  | some user =>
      dsimp only
      split
      · exact unprivileged.issue manager (List.mem_of_find?_eq_some found)
      · exact unprivileged

theorem logout (unprivileged : core.Unprivileged) (token : String) :
    (core.attempt (Manager.logout token)).2.Unprivileged := by
  rw [attempt_logout unprivileged.sound.sessions]
  split
  · exact unprivileged
  · refine unprivileged.of_fewer rfl rfl rfl fun key entry found => ?_
    rw [ExpiringMap.find?_erase] at found
    split at found
    · cases found
    · exact found

theorem resolve (unprivileged : core.Unprivileged) (token : String) :
    (core.attempt (Manager.resolve token)).2.Unprivileged := by
  rw [attempt_resolve_of_sound unprivileged.sound.sessions]
  split
  · exact unprivileged
  · refine unprivileged.of_fewer rfl rfl rfl fun key entry found => ?_
    rw [ExpiringMap.find?_get] at found
    split at found
    · rename_i same
      rw [same]
      exact (ExpiringMap.live?_eq_some_iff.mp found).1
    · exact found

theorem authenticate (unprivileged : core.Unprivileged) (carrier : Option Carrier) :
    (core.attempt (Gate.authenticate carrier)).2.Unprivileged := by
  cases carrier with
  | none => exact unprivileged
  | some carrier =>
      have asked := unprivileged.resolve carrier.token
      rw [attempt_authenticate]
      split
      · exact unprivileged
      · revert asked
        rcases core.attempt (Manager.resolve carrier.token) with ⟨error | identity, after⟩ <;>
          exact id

theorem sweep {world : World} (unprivileged : world.core.Unprivileged) :
    world.sweep.2.core.Unprivileged := by
  refine unprivileged.of_fewer rfl rfl rfl fun key entry found => ?_
  have live := (world.sessions.find?_sweep world.now key).symm.trans found
  exact (ExpiringMap.live?_eq_some_iff.mp live).1

theorem after_call {call : Call} (isOpen : call.IsOpen) {world : World}
    (unprivileged : world.core.Unprivileged) : (call.after world).core.Unprivileged := by
  cases call with
  | provision manager user role => exact isOpen.elim
  | register manager user =>
      exact World.core_run_snd (manager.register user) world ▸ unprivileged.register manager user
  | login manager credentials =>
      exact World.core_run_snd (manager.login credentials) world ▸
        unprivileged.login manager credentials
  | logout token =>
      exact World.core_run_snd (Manager.logout token) world ▸ unprivileged.logout token
  | resolve token =>
      exact World.core_run_snd (Manager.resolve token) world ▸ unprivileged.resolve token
  | authenticate carrier =>
      exact World.core_run_snd (Gate.authenticate carrier) world ▸
        unprivileged.authenticate carrier
  | sweep => exact unprivileged.sweep

theorem of_leads {deeds : List Deed} {finish : Core} (unprivileged : core.Unprivileged)
    (leads : Leads core deeds finish) (isOpen : ∀ deed ∈ deeds, deed.call.IsOpen) :
    finish.Unprivileged := by
  induction leads with
  | nil core => exact unprivileged
  | @cons deed rest finish later ih =>
      apply ih (unprivileged.after_call (isOpen deed List.mem_cons_self))
      exact fun other member => isOpen other (List.mem_cons_of_mem _ member)

/-! ## Identities -/

/-- A token speaks for an account of an ordinary user, or for nobody. -/
theorem resolve_ok (unprivileged : core.Unprivileged) {token : String} {identity : Identity}
    (resolved : (core.attempt (Manager.resolve token)).1 = .ok identity) :
    ∃ user ∈ core.users.users, identity = ⟨user.id, .user⟩ := by
  rw [attempt_resolve_of_sound unprivileged.sound.sessions] at resolved
  cases blank : token.isEmpty with
  | true =>
      rw [blank] at resolved
      cases resolved
  | false =>
      simp only [blank, Bool.false_eq_true, if_false, ExpiringMap.get_fst] at resolved
      cases live : core.sessions.live? core.now token with
      | none =>
          rw [live] at resolved
          cases resolved
      | some entry =>
          have stored := (ExpiringMap.live?_eq_some_iff.mp live).1
          obtain ⟨-, user, member, value⟩ := unprivileged.entries token entry stored
          rw [live, Option.map_some, Core.identityOf, value, Identity.decode_encode] at resolved
          exact ⟨user, member, (Except.ok.inj resolved).symm⟩

theorem exists_resolve_ok (unprivileged : core.Unprivileged) {token : String} {entry : Entry}
    (live : core.sessions.live? core.now token = some entry) :
    ∃ user ∈ core.users.users,
      (core.attempt (Manager.resolve token)).1 = .ok ⟨user.id, .user⟩ := by
  have stored := (ExpiringMap.live?_eq_some_iff.mp live).1
  obtain ⟨notBlank, user, member, value⟩ := unprivileged.entries token entry stored
  refine ⟨user, member, ?_⟩
  rw [attempt_resolve_of_sound unprivileged.sound.sessions, notBlank]
  simp only [Bool.false_eq_true, if_false, ExpiringMap.get_fst, live, Option.map_some,
    Core.identityOf, value, Identity.decode_encode]
  rfl

theorem role_of_authenticate (unprivileged : core.Unprivileged) {carrier : Option Carrier}
    {identity : Identity} (accepted : (core.attempt (Gate.authenticate carrier)).1 = .ok identity) :
    identity.role = .user := by
  cases carrier with
  | none => cases accepted
  | some carrier =>
      rw [attempt_authenticate] at accepted
      split at accepted
      · cases accepted
      · rcases asked : core.attempt (Manager.resolve carrier.token) with ⟨error | known, after⟩
        · rw [asked] at accepted
          cases accepted
        · rw [asked] at accepted
          dsimp only at accepted
          split at accepted
          · cases accepted
          · obtain ⟨user, -, rfl⟩ := unprivileged.resolve_ok (congrArg Prod.fst asked)
            rw [← Except.ok.inj accepted]

end Core.Unprivileged

/-! ## Requests -/

namespace Http

/-- Whatever is done is done by open calls. -/
def Doings.AreOpen (doings : Doings) : Prop :=
  ∀ manager request world, ∀ deed ∈ doings manager request world, deed.call.IsOpen

theorem loginDeeds_areOpen : Doings.AreOpen loginDeeds := by
  intro manager request world
  rw [loginDeeds]
  refine List.forall_mem_cons.mpr ⟨trivial, ?_⟩
  split
  · exact List.forall_mem_singleton.mpr trivial
  · exact List.forall_mem_nil _

theorem registerDeeds_areOpen : Doings.AreOpen registerDeeds := by
  intro manager request world
  rw [registerDeeds]
  refine List.forall_mem_cons.mpr ⟨trivial, ?_⟩
  split
  · refine List.forall_mem_cons.mpr ⟨trivial, ?_⟩
    split
    · exact List.forall_mem_singleton.mpr trivial
    · exact List.forall_mem_nil _
  · exact List.forall_mem_nil _

theorem logoutDeeds_areOpen : Doings.AreOpen logoutDeeds := by
  intro manager request world
  rw [logoutDeeds]
  split
  · exact List.forall_mem_nil _
  · refine List.forall_mem_cons.mpr ⟨trivial, ?_⟩
    split
    · exact List.forall_mem_singleton.mpr trivial
    · exact List.forall_mem_nil _

theorem noDeeds_areOpen : Doings.AreOpen noDeeds :=
  fun _ _ _ => List.forall_mem_nil _

theorem areOpen_of_mem_describedRoutes {more : List Route} {route : Route} {doings : Doings}
    (member : (route, doings) ∈ describedRoutes more) : doings.AreOpen := by
  rcases List.mem_append.mp member with entry | gated
  · simp only [Router.entryPoints, List.zip_cons_cons, List.zip_nil_left, List.mem_cons,
      Prod.mk.injEq, List.not_mem_nil, or_false] at entry
    obtain ⟨-, rfl⟩ | ⟨-, rfl⟩ | ⟨-, rfl⟩ | ⟨-, rfl⟩ := entry
    · exact loginDeeds_areOpen
    · exact registerDeeds_areOpen
    · exact logoutDeeds_areOpen
    · exact noDeeds_areOpen
  · obtain ⟨behind, -, same⟩ := List.mem_map.mp gated
    rw [← (Prod.mk.inj same).2]
    exact noDeeds_areOpen

theorem Doings.AreOpen.dispatchDeeds {doings : Doings} (areOpen : doings.AreOpen)
    (route : Route) : Doings.AreOpen (dispatchDeeds route doings) := by
  intro manager request world
  rw [Http.dispatchDeeds]
  split
  · exact areOpen manager request world
  · exact List.forall_mem_nil _

/-- Callers of a service make open calls only. -/
theorem requestDeeds_areOpen (more : List Route) : Doings.AreOpen (requestDeeds more) := by
  intro manager request world
  rw [requestDeeds]
  split
  · rename_i route doings found
    have dispatched :=
      (areOpen_of_mem_describedRoutes (List.mem_of_find?_eq_some found)).dispatchDeeds route
    rw [routeDeeds]
    split
    · refine List.forall_mem_cons.mpr ⟨trivial, ?_⟩
      split
      · exact dispatched manager request _
      · exact List.forall_mem_nil _
    · exact dispatched manager request world
  · exact List.forall_mem_nil _

theorem status_error_ne (error : AuthError) : error.status ≠ 204 := by
  cases error <;> simp [AuthError.status]

theorem find?_standard_moderation :
    Router.standard.routes.find? (·.accepts "/api/v1/moderation") =
      some (Router.gatedRoute [.literal "moderation"] .get (.ofIdentity moderation)) := by
  have guarded : (guardedRoutes []).find? (·.accepts "/api/v1/moderation") = _ := find?_moderation
  exact find?_guarding guarded

/-- The answer that only moderators get. -/
theorem moderation_status_ne {core : Core} (manager : Manager) {request : Request}
    (path : request.path = "/api/v1/moderation")
    (ordinary : ∀ identity,
      (core.attempt (Gate.authenticate (Cookie.carrier? request.headers))).1 = .ok identity →
        identity.role = .user) :
    (core.run (Router.standard.answer manager request)).1.status ≠ 204 := by
  have found : Router.standard.routes.find? (·.accepts request.path) = _ :=
    path ▸ find?_standard_moderation
  rw [Core.run_answer_of_find? found, Core.run_routeAnswer, complete_status,
    Core.run_throughGate_of_isGated rfl]
  rcases asked : core.attempt (Gate.authenticate (Cookie.carrier? request.headers)) with
    ⟨error | identity, after⟩
  · simp only [Core.run_failure]
    exact status_error_ne error
  · rw [asked] at ordinary
    obtain ⟨id, role⟩ := identity
    obtain rfl : role = .user := ordinary _ rfl
    dsimp only
    rw [Core.run_dispatch]
    split
    · exact status_error_ne .forbidden
    · change 405 ≠ 204
      decide

end Http

theorem Core.Unprivileged.perform {act : Act} (outside : act.IsFromOutside) {world : World}
    (unprivileged : world.core.Unprivileged) : (act.perform world).2.core.Unprivileged := by
  cases act with
  | requested router manager request =>
      obtain rfl : router = .standard := outside
      have leads := leads_requestDeeds (List.forall_mem_nil _) manager request world
      exact unprivileged.of_leads leads (requestDeeds_areOpen [] manager request world)
  | made call =>
      cases call with
      | sweep => exact unprivileged.sweep
      | _ => exact outside.elim
  | setClock now => exact unprivileged.of_fewer rfl rfl rfl fun _ _ found => found
  | advance span =>
      simp only [Act.perform, World.advance]
      cases world.now.add? span with
      | none => exact unprivileged
      | some now => exact unprivileged.of_fewer rfl rfl rfl fun _ _ found => found
  | _ => exact outside.elim

namespace World

/-- There is no moderator, and nobody is taken for one. -/
structure HasNoModerator (world : World) : Prop where
  accounts : ∀ user ∈ world.users.users, user.role = .user
  /-- A live session speaks for an ordinary user who has an account. -/
  sessions : ∀ token entry, world.sessions.live? world.now token = some entry →
    ∃ user ∈ world.users.users, (world.attempt (Manager.resolve token)).1 = .ok ⟨user.id, .user⟩
  resolved : ∀ token identity, (world.attempt (Manager.resolve token)).1 = .ok identity →
    ∃ user ∈ world.users.users, identity = ⟨user.id, .user⟩
  moderation : ∀ manager request, request.path = "/api/v1/moderation" →
    (world.run (Router.standard.answer manager request)).1.status ≠ 204
  responses : ∀ manager request,
    ¬ (world.run (Router.standard.answer manager request)).1.Names .moderator

end World

theorem Core.Unprivileged.hasNoModerator {world : World}
    (unprivileged : world.core.Unprivileged) : world.HasNoModerator where
  accounts := unprivileged.roles
  sessions token entry live := by
    have resolved := unprivileged.exists_resolve_ok live
    rwa [World.attempt_core] at resolved
  resolved token identity resolved := by
    have asked : (world.core.attempt (Manager.resolve token)).1 = .ok identity := by
      rwa [World.attempt_core]
    exact unprivileged.resolve_ok asked
  moderation manager request path := by
    rw [World.run_fst]
    exact moderation_status_ne manager path fun _ => unprivileged.role_of_authenticate
  responses manager request := by
    rw [World.run_fst]
    exact answer_isDiscreet manager request world.core fun _ => unprivileged.role_of_authenticate

namespace World

/-- No run of requests, sweeps and moves of the clock makes anybody a moderator: no account has the
role, no session speaks for it, and no response grants or reports it. -/
theorem requests_give_no_privilege (now : Time.Instant) (salts : Nat → Salt)
    (tokens : Nat → TokenBytes) {acts : List Act} (outside : ∀ act ∈ acts, act.IsFromOutside) :
    ((start now salts tokens).enact acts).HasNoModerator := by
  have unprivileged : ((start now salts tokens).enact acts).core.Unprivileged :=
    enact_induction (fun world => world.core.Unprivileged)
      (fun _ _ outside unprivileged => unprivileged.perform outside)
      (Core.Unprivileged.start now salts tokens) outside
  exact unprivileged.hasNoModerator

/-- A registration that asks for a role, and time that passes. -/
theorem asking_gives_no_privilege :
    ((start .epoch (fun _ => .replicate 8 0) fun _ => .replicate 32 0).enact
      [.requested .standard .cheap ⟨"POST", "/register",
          [⟨"Content-Type", Octets.ofText "application/json"⟩],
          Octets.ofText "\x7b\"email\":\"a@b.c\",\"password\":\"p\",\"role\":\"moderator\"\x7d"⟩,
        .advance .day, .made .sweep]).HasNoModerator := by
  apply requests_give_no_privilege
  simp [Act.IsFromOutside]

end World

end SessionGate
