import SessionGate.Proofs.Http.Outcomes
import SessionGate.Proofs.Http.Statuses
import SessionGate.Proofs.Runs.Reachable

/-!
# Responses and sessions agree

What a caller is told agrees with what the store of sessions holds. A cookie is set exactly where a
session has been stored for the caller or the caller's own has been deleted. A caller who is handed
a cookie is let in with it as long as the session has any time to live. All this is so for every
request, whichever of its questions the stores fail.
-/

namespace SessionGate

open Time

variable {core before after : Core} {turns talk : List Turn} {manager : Manager}

/-! ## Sessions that are stored -/

/-- The gate admits whom the entry of a token speaks for, if it is alive. -/
theorem Core.attempt_authenticate_of_sound (sound : core.IsSound) {token : String}
    (notBlank : token.isEmpty = false) :
    (core.attempt (Gate.authenticate (some ⟨token, none⟩))).1 =
      Gate.pass (identityOf ((core.sessions.live? core.now token).map Entry.value)) := by
  have resolved : (core.attempt (Manager.resolve token)).1 =
      identityOf ((core.sessions.live? core.now token).map Entry.value) := by
    rw [attempt_resolve_of_sound sound.sessions, notBlank, if_neg Bool.false_ne_true,
      ExpiringMap.get_fst]
  rw [← resolved, attempt_authenticate]
  dsimp only
  rcases core.attempt (Manager.resolve token) with ⟨error | known, after⟩
  · rfl
  · rfl

/-- A caller is let in with a token that has just been stored for somebody with time to live. -/
theorem Core.attempt_authenticate_of_put (sound : before.IsSound) {token : String}
    {identity : Identity} {lifetime : Lifetime} {expires : Instant}
    (takes : before.Takes ⟨.putSession token identity lifetime, .ok ()⟩ after)
    (notBlank : token.isEmpty = false) (somebody : identity.userId ≠ 0)
    (expiry : ExpiringMap.expiry before.now (some lifetime) = .ok (some expires))
    (running : before.now < expires) :
    (after.attempt (Gate.authenticate (some ⟨token, none⟩))).1 = .ok identity := by
  have stored := takes.set_of_put sound
  rw [ExpiringMap.set, expiry] at stored
  have sessions : after.sessions =
      before.sessions.insert token ⟨identity.encode, some expires⟩ := (Except.ok.inj stored).symm
  have live : after.sessions.live? after.now token = some ⟨identity.encode, some expires⟩ := by
    rw [ExpiringMap.live?_eq_some_iff, sessions, ExpiringMap.find?_insert, if_pos rfl]
    refine ⟨rfl, ?_⟩
    rw [takes.precedes.now, Entry.isExpired]
    exact decide_eq_false (Instant.not_le.mpr running)
  rw [attempt_authenticate_of_sound (takes.precedes.isSound sound) notBlank, live,
    Option.map_some, identityOf, Identity.decode_encode]
  exact if_neg somebody

namespace Http

/-- What agrees where a caller is handed a cookie: it has the token of the session that has been
stored, once, for the account that the response names. The caller is let in with it. -/
structure HandsOut (manager : Manager) (core : Core) (turns : List Turn) (response : Response)
    (after : Core) (identity : Identity) (token : String) (expires : Instant)
    (lifetime : Lifetime) : Prop where
  response : response = handingOut identity.userId token expires
  stored : turns.filter (fun turn => turn.1.kind == .putSession) =
    [⟨.putSession token identity lifetime, .ok ()⟩]
  undeleted : ∀ turn ∈ turns, turn.1.kind ≠ .deleteSession
  ends : core.now.add? manager.ttl = some expires
  lasts : (lifetime.nanos : Int) = (expires.since core.now).nanos
  lastsPlain : core.now.isLeap = false → (lifetime.nanos : Int) = manager.ttl.nanos
  unmoved : after.now = core.now
  comesBack : Cookie.carrier? [⟨"Cookie", Octets.ofText (Cookie.name ++ "=" ++ token)⟩] =
    some ⟨token, none⟩
  accepted : after.users.size < 2 ^ 63 → 0 < lifetime.nanos →
    (after.attempt (Gate.authenticate (some ⟨token, none⟩))).1 = .ok identity

/-- What agrees where a caller's cookie is taken back: the session of the token presented has been
deleted, once, and no other. -/
structure TakesBack (request : Request) (core : Core) (turns : List Turn) (response : Response)
    (after : Core) (token : String) : Prop where
  carried : Cookie.carrier? request.headers = some ⟨token, none⟩
  response : response = (Response.ofStatus 204).withCookie
    (Octets.ofText (Cookie.headerText "" core.now))
  unstored : ∀ turn ∈ turns, turn.1.kind ≠ .putSession
  deleted : turns.filter (fun turn => turn.1.kind == .deleteSession) =
    [⟨.deleteSession token, .ok ()⟩]
  sessions : ∀ key, after.sessions.find? key = if key = token then none else core.sessions.find? key

/-- No session has been stored or deleted. -/
structure LeavesSessions (turns : List Turn) : Prop where
  puts : ∀ token identity lifetime, ⟨.putSession token identity lifetime, .ok ()⟩ ∉ turns
  deletes : ∀ token, ⟨.deleteSession token, .ok ()⟩ ∉ turns

end Http

/-! ## Logging in -/

/-- A login that succeeds hands out what it has stored. -/
theorem Manager.LogsIn.handsOut {credentials : Credentials} {session : Session} {owner : UserId}
    (logsIn : manager.LogsIn credentials turns (.ok (session, owner))) (regular : core.IsRegular)
    (follows : core.Follows turns after) :
    ∃ role lifetime, Http.HandsOut manager core turns
      (Http.handingOut owner session.token session.expiresAt) after ⟨owner, role⟩ session.token
      session.expiresAt lifetime := by
  obtain ⟨user, now, bytes, lifetime, rfl, right, opened, rfl⟩ := logsIn.eq_of_ok
  obtain ⟨token, identity, ends, positive⟩ := Manager.eq_of_openSession opened
  have lasts := Span.toLifetime?_eq_some_iff.mp positive
  have hosts := follows.hosts regular.sound
  have left := regular.follows follows
  have still := follows.precedes.now
  -- The login has taken four turns; `ready` is what it stores the session in.
  cases follows with
  | cons finds timing =>
  cases timing with
  | cons timed drawing =>
  cases drawing with
  | @cons _ ready _ _ _ drawn storing =>
  have puts := Core.follows_singleton_iff.mp storing
  obtain ⟨clock, rfl⟩ := timed.of_readClock
  obtain rfl : now = core.now := clock.trans finds.precedes.now
  have ready_now : ready.now = core.now := drawn.precedes.now.trans finds.precedes.now
  have readySound : ready.IsSound :=
    drawn.precedes.isSound (finds.precedes.isSound regular.sound)
  obtain ⟨expires, expiry, alive⟩ := Manager.exists_expiry_of_openSession opened
  have known : after.users.Knows credentials.email user :=
    hosts.grows.knows ⟨user.role, (finds.replies regular.sound).eq_of_found⟩
  rw [identity]
  refine ⟨user.role, lifetime, rfl, by simp [Question.kind], by simp [Question.kind], ends, lasts,
    fun plain => ?_, still, ?_, fun few running => ?_⟩
  · rw [lasts, Instant.nanos_since_of_add? plain ends]
  · rw [token]
    exact Http.Cookie.carrier?_ofBytes bytes
  · have notBlank : session.token.isEmpty = false := token ▸ Token.isEmpty_ofBytes bytes
    have somebody : user.id ≠ 0 := left.numbered.ne_zero_of_knows few known
    rw [identity] at puts
    rw [← ready_now] at expiry alive
    exact Core.attempt_authenticate_of_put readySound puts notBlank somebody expiry (alive running)

theorem Manager.LogsIn.leavesSessions {credentials : Credentials} {error : AuthError}
    (logsIn : manager.LogsIn credentials turns (.error error)) : Http.LeavesSessions turns := by
  generalize failed : Except.error error = result at logsIn
  cases logsIn with
  | unknown refusal => exact ⟨by simp, by simp⟩
  | wrong wrong => exact ⟨by simp, by simp⟩
  | undrawn now report right => exact ⟨by simp, by simp⟩
  | unopened bytes right refused => exact ⟨by simp, by simp⟩
  | stored answer right opened =>
      cases answer with
      | ok value => cases failed
      | error refusal =>
          refine ⟨fun token identity lifetime stored => ?_, by simp⟩
          simp only [List.mem_cons, List.not_mem_nil, or_false, Sigma.mk.injEq, reduceCtorEq,
            false_and, false_or] at stored
          obtain ⟨same, answer⟩ := stored
          cases same
          cases eq_of_heq answer

/-- No turn stores or deletes a session. -/
def IsAside (turns : List Turn) : Prop :=
  ∀ turn ∈ turns, turn.1.kind ≠ .putSession ∧ turn.1.kind ≠ .deleteSession

theorem IsAside.append {rest : List Turn} (first : IsAside turns) (second : IsAside rest) :
    IsAside (turns ++ rest) := fun turn member =>
  (List.mem_append.mp member).elim (first turn) (second turn)

theorem IsAside.filter_eq_nil {kind : Question.Kind} (aside : IsAside turns)
    (onSessions : kind = .putSession ∨ kind = .deleteSession) :
    turns.filter (fun turn => turn.1.kind == kind) = [] := by
  rw [List.filter_eq_nil_iff]
  intro turn member same
  obtain ⟨noPut, noDelete⟩ := aside turn member
  rw [beq_iff_eq] at same
  rcases onSessions with rfl | rfl
  · exact noPut same
  · exact noDelete same

theorem IsAside.leavesSessions (aside : IsAside turns) : Http.LeavesSessions turns :=
  ⟨fun _ _ _ member => (aside _ member).1 rfl, fun _ member => (aside _ member).2 rfl⟩

theorem Http.LeavesSessions.append {rest : List Turn} (first : LeavesSessions turns)
    (second : LeavesSessions rest) : LeavesSessions (turns ++ rest) where
  puts _ _ _ member := (List.mem_append.mp member).elim (first.puts _ _ _) (second.puts _ _ _)
  deletes _ member := (List.mem_append.mp member).elim (first.deletes _) (second.deletes _)

theorem Gate.Asks.isAside {carrier : Option Carrier} {result : Except AuthError Identity}
    (asks : Asks carrier turns result) : IsAside turns := by
  intro turn member
  obtain ⟨token, same⟩ := asks.exists_getSession member
  rw [same]
  exact ⟨nofun, nofun⟩

theorem Manager.Registers.isAside {user : NewUser} {result : Except AuthError UserId}
    (registers : manager.Registers user turns result) : IsAside turns := by
  cases registers with
  | nothing empty => simp [IsAside]
  | unknown something error => simp [IsAside, Question.kind]
  | taken something => simp [IsAside, Question.kind]
  | free something provisions => cases provisions <;> simp [IsAside, Question.kind]

namespace Http

variable {request : Request} {response : Response} {result : Except AuthError Response}

theorem HandsOut.prepend {identity : Identity} {token : String} {expires : Instant}
    {lifetime : Lifetime}
    (handsOut : HandsOut manager core talk response after identity token expires lifetime)
    (precedes : before.Precedes core) (aside : IsAside turns) :
    HandsOut manager before (turns ++ talk) response after identity token expires lifetime where
  response := handsOut.response
  stored := by
    rw [List.filter_append, aside.filter_eq_nil (.inl rfl), handsOut.stored, List.nil_append]
  undeleted turn member := (List.mem_append.mp member).elim (fun first => (aside turn first).2)
    (handsOut.undeleted turn)
  ends := precedes.now ▸ handsOut.ends
  lasts := precedes.now ▸ handsOut.lasts
  lastsPlain := precedes.now ▸ handsOut.lastsPlain
  unmoved := handsOut.unmoved.trans precedes.now
  comesBack := handsOut.comesBack
  accepted := handsOut.accepted

/-- How a response agrees with what a request has made of sessions. -/
inductive Answers (manager : Manager) (core : Core) (turns : List Turn) (after : Core) :
    Except AuthError Response → Prop where
  | handedOut {response : Response} {identity : Identity} {token : String} {expires : Instant}
      {lifetime : Lifetime}
      (handsOut : HandsOut manager core turns response after identity token expires lifetime) :
      Answers manager core turns after (.ok response)
  | refused {error : AuthError} (leaves : LeavesSessions turns) :
      Answers manager core turns after (.error error)

theorem LoginCourse.answers (course : LoginCourse manager request turns result)
    (regular : core.IsRegular) (follows : core.Follows turns after) :
    Answers manager core turns after result := by
  cases course with
  | live asks => exact .refused asks.isAside.leavesSessions
  | unfit asks unfit => exact .refused asks.isAside.leavesSessions
  | @answered gate talk refusal credentials outcome asks presented logsIn =>
      obtain ⟨asked, gated, talks⟩ := follows.split
      cases outcome with
      | error error =>
          exact .refused (asks.isAside.leavesSessions.append logsIn.leavesSessions)
      | ok opened =>
          obtain ⟨session, owner⟩ := opened
          obtain ⟨role, lifetime, handsOut⟩ := logsIn.handsOut (regular.follows gated) talks
          exact .handedOut (handsOut.prepend gated.precedes asks.isAside)

theorem RegisterCourse.answers (course : RegisterCourse manager request turns result)
    (regular : core.IsRegular) (follows : core.Follows turns after) :
    Answers manager core turns after result := by
  cases course with
  | live asks => exact .refused asks.isAside.leavesSessions
  | unfit asks unfit => exact .refused asks.isAside.leavesSessions
  | unopened asks presented registers =>
      exact .refused (asks.isAside.append registers.isAside).leavesSessions
  | @answered gate opening talk refusal user id outcome asks presented registers logsIn =>
      obtain ⟨asked, gated, later⟩ := follows.split
      obtain ⟨opened, opens, talks⟩ := later.split
      have regularAsked := regular.follows gated
      have regularOpened := regularAsked.follows opens
      cases outcome with
      | error error =>
          exact .refused (asks.isAside.leavesSessions.append
            (registers.isAside.leavesSessions.append logsIn.leavesSessions))
      | ok entered =>
          obtain ⟨session, owner⟩ := entered
          -- The account that the login has found is the one that has been inserted.
          obtain ⟨row, inserted⟩ := exists_inserted_of_registers registers
          have known := registers.knows_of_hosts (opens.hosts regularAsked.sound) inserted
          obtain ⟨salt, record, records, rfl, -, -⟩ := registers.eq_of_inserted inserted
          obtain rfl : owner = id := by
            rcases logsIn.enters (talks.hosts regularOpened.sound) known records.right with
              ⟨-, fault, failed⟩ | ⟨-, enters⟩
            · cases failed
            · cases enters
              rfl
          obtain ⟨role, lifetime, handsOut⟩ := logsIn.handsOut regularOpened talks
          exact .handedOut ((handsOut.prepend opens.precedes registers.isAside).prepend
            gated.precedes asks.isAside)

theorem LogoutCourse.takesBack (course : LogoutCourse request turns (.ok response))
    (sound : core.IsSound) (follows : core.Follows turns after) :
    ∃ token, TakesBack request core turns response after token := by
  cases course with
  | @ended gate talk token identity now carried asks revokes =>
      obtain ⟨known, same, -, rfl, -⟩ := asks.eq_of_ok rfl
      obtain rfl : token = known :=
        congrArg Carrier.token (Option.some.inj (carried.symm.trans same))
      cases revokes with
      | asked notBlank =>
          obtain ⟨asked, looks, later⟩ := follows.split
          obtain ⟨deleted, deletes, reads⟩ := later.split
          have lookUp := Core.follows_singleton_iff.mp looks
          have deletion := Core.follows_singleton_iff.mp deletes
          obtain ⟨clock, rfl⟩ := (Core.follows_singleton_iff.mp reads).of_readClock
          have askedSound := looks.precedes.isSound sound
          obtain rfl : now = core.now :=
            clock.trans (deletes.precedes.now.trans looks.precedes.now)
          refine ⟨token, carried, rfl, by simp [Question.kind], by simp [Question.kind],
            fun key => ?_⟩
          rw [deletion.sessions_of_delete askedSound, ExpiringMap.find?_erase]
          split
          · rfl
          · rename_i other
            exact lookUp.find?_of_get sound other

theorem LogoutCourse.leavesSessions {error : AuthError}
    (course : LogoutCourse request turns (.error error)) : LeavesSessions turns := by
  cases course with
  | refused asks => exact asks.isAside.leavesSessions
  | failed carried asks revokes =>
      refine asks.isAside.leavesSessions.append ?_
      cases revokes with
      | blank blank => exact ⟨by simp, by simp⟩
      | asked notBlank => exact ⟨by simp, by simp⟩

/-! ## Every request -/

theorem failureResponse_status_ne (error : AuthError) :
    (failureResponse error).status ≠ 200 ∧ (failureResponse error).status ≠ 204 := by
  change error.status ≠ 200 ∧ error.status ≠ 204
  cases error <;> simp [AuthError.status]

namespace Answers

variable (answers : Answers manager core turns after result)

include answers

theorem setCookie_iff : (responseOf result).setCookie.isSome = true ↔
    (responseOf result).status = 200 := by
  cases answers with
  | handedOut handsOut =>
      rw [responseOf, handsOut.response]
      exact ⟨fun _ => rfl, fun _ => rfl⟩
  | refused leaves =>
      refine ⟨?_, fun same => absurd same (failureResponse_status_ne _).1⟩
      rintro ⟨⟩

theorem exists_handsOut (succeeded : (responseOf result).status = 200) :
    ∃ identity token expires lifetime,
      HandsOut manager core turns (responseOf result) after identity token expires lifetime := by
  cases answers with
  | handedOut handsOut => exact ⟨_, _, _, _, handsOut⟩
  | refused leaves => exact absurd succeeded (failureResponse_status_ne _).1

theorem leavesSessions (plain : (responseOf result).setCookie = none) : LeavesSessions turns := by
  cases answers with
  | handedOut handsOut =>
      rw [responseOf, handsOut.response] at plain
      cases plain
  | refused leaves => exact leaves

end Answers

/-- The store of sessions vouches for nobody. -/
def IsLifeless (turns : List Turn) : Prop :=
  ∀ token identity, ⟨.getSession token, .ok identity⟩ ∈ turns → identity.userId = 0

/-- A caller without a live session is not taken for one. -/
theorem not_asks_ok_of_isLifeless {carrier : Option Carrier} (lifeless : IsLifeless turns)
    {identity : Identity} : ¬ Gate.Asks carrier turns (.ok identity) := by
  intro asks
  obtain ⟨token, -, -, rfl, somebody⟩ := asks.eq_of_ok rfl
  exact somebody (lifeless token identity List.mem_cons_self)

theorem LoginCourse.of_unread {bodyError : BodyError}
    (course : LoginCourse manager request turns result)
    (unread : Body.read Credentials.read request = .error bodyError)
    (lifeless : IsLifeless turns) :
    result = .error (.badRequest (.body bodyError)) ∧
      ∀ turn ∈ turns, ∃ token, turn.1 = .getSession token := by
  have refused := presentedCredentials_of_unread unread
  cases course with
  | live asks => exact absurd asks (not_asks_ok_of_isLifeless lifeless)
  | unfit asks unfit =>
      obtain rfl := Except.error.inj (unfit.symm.trans refused)
      exact ⟨rfl, fun _ => asks.exists_getSession⟩
  | answered asks presented logsIn => cases presented.symm.trans refused

theorem RegisterCourse.of_unread {bodyError : BodyError}
    (course : RegisterCourse manager request turns result)
    (unread : Body.read NewUser.read request = .error bodyError) (lifeless : IsLifeless turns) :
    result = .error (.badRequest (.body bodyError)) ∧
      ∀ turn ∈ turns, ∃ token, turn.1 = .getSession token := by
  have refused := presentedUser_of_unread unread
  cases course with
  | live asks => exact absurd asks (not_asks_ok_of_isLifeless lifeless)
  | unfit asks unfit =>
      obtain rfl := Except.error.inj (unfit.symm.trans refused)
      exact ⟨rfl, fun _ => asks.exists_getSession⟩
  | unopened asks presented registers => cases presented.symm.trans refused
  | answered asks presented registers logsIn => cases presented.symm.trans refused

/-- What a response tells agrees with what has become of the sessions. A body that cannot be read
is refused before anything but the caller's session is looked at. -/
structure Agrees (manager : Manager) (request : Request) (core : Core) (turns : List Turn)
    (response : Response) (after : Core) : Prop where
  setCookie_iff : response.setCookie.isSome = true ↔
    ((request.Posts "/login" ∨ request.Posts "/register") ∧ response.status = 200) ∨
      (request.Posts "/logout" ∧ response.status = 204)
  handsOut : request.Posts "/login" ∨ request.Posts "/register" → response.status = 200 →
    ∃ identity token expires lifetime,
      HandsOut manager core turns response after identity token expires lifetime
  takesBack : request.Posts "/logout" → response.status = 204 →
    ∃ token, TakesBack request core turns response after token
  leaves : response.setCookie = none → LeavesSessions turns
  loginStatus : request.Posts "/login" → response.status ∈ [200, 400, 401, 404, 500]
  registerStatus : request.Posts "/register" → response.status ∈ [200, 400, 401, 409, 500]
  logoutStatus : request.Posts "/logout" → response.status ∈ [204, 400, 401, 404, 500]
  unread : ∀ bodyError : BodyError,
    request.Posts "/login" ∧ Body.read Credentials.read request = .error bodyError ∨
      request.Posts "/register" ∧ Body.read NewUser.read request = .error bodyError →
    IsLifeless turns →
    response = failureResponse (.badRequest (.body bodyError)) ∧ response.status = 400 ∧
      ∀ turn ∈ turns, ∃ token, turn.1 = .getSession token

theorem Request.Posts.not_posts {first second : String} (posts : request.Posts first)
    (different : first ≠ second) : ¬ request.Posts second :=
  fun other => different (posts.2.symm.trans other.2)

theorem LoginCourse.agrees (posts : request.Posts "/login")
    (course : LoginCourse manager request turns result) (regular : core.IsRegular)
    (follows : core.Follows turns after) :
    Agrees manager request core turns (responseOf result) after := by
  have noRegister : ¬ request.Posts "/register" := posts.not_posts (by decide)
  have noLogout : ¬ request.Posts "/logout" := posts.not_posts (by decide)
  have answers := course.answers regular follows
  exact {
    setCookie_iff := by simp [posts, noLogout, answers.setCookie_iff]
    handsOut := fun _ => answers.exists_handsOut
    takesBack := fun other => absurd other noLogout
    leaves := answers.leavesSessions
    loginStatus := fun _ => course.status regular.sound follows
    registerStatus := fun other => absurd other noRegister
    logoutStatus := fun other => absurd other noLogout
    unread := by
      rintro bodyError (⟨-, unread⟩ | ⟨other, -⟩) lifeless
      · obtain ⟨rfl, asked⟩ := course.of_unread unread lifeless
        exact ⟨rfl, rfl, asked⟩
      · exact absurd other noRegister }

theorem RegisterCourse.agrees (posts : request.Posts "/register")
    (course : RegisterCourse manager request turns result) (regular : core.IsRegular)
    (follows : core.Follows turns after) :
    Agrees manager request core turns (responseOf result) after := by
  have noLogin : ¬ request.Posts "/login" := posts.not_posts (by decide)
  have noLogout : ¬ request.Posts "/logout" := posts.not_posts (by decide)
  have answers := course.answers regular follows
  exact {
    setCookie_iff := by simp [posts, noLogout, answers.setCookie_iff]
    handsOut := fun _ => answers.exists_handsOut
    takesBack := fun other => absurd other noLogout
    leaves := answers.leavesSessions
    loginStatus := fun other => absurd other noLogin
    registerStatus := fun _ => course.status regular.sound follows
    logoutStatus := fun other => absurd other noLogout
    unread := by
      rintro bodyError (⟨other, -⟩ | ⟨-, unread⟩) lifeless
      · exact absurd other noLogin
      · obtain ⟨rfl, asked⟩ := course.of_unread unread lifeless
        exact ⟨rfl, rfl, asked⟩ }

theorem LogoutCourse.agrees (posts : request.Posts "/logout")
    (course : LogoutCourse request turns result) (regular : core.IsRegular)
    (follows : core.Follows turns after) :
    Agrees manager request core turns (responseOf result) after := by
  have noLogin : ¬ request.Posts "/login" := posts.not_posts (by decide)
  have noRegister : ¬ request.Posts "/register" := posts.not_posts (by decide)
  have status := course.status regular.sound follows
  have neither : ¬ (request.Posts "/login" ∨ request.Posts "/register") := by
    simp [noLogin, noRegister]
  have elsewhere (bodyError : BodyError) :
      ¬ (request.Posts "/login" ∧ Body.read Credentials.read request = .error bodyError ∨
        request.Posts "/register" ∧ Body.read NewUser.read request = .error bodyError) := by
    simp [noLogin, noRegister]
  cases result with
  | ok response =>
      obtain ⟨token, takesBack⟩ := course.takesBack regular.sound follows
      have same := takesBack.response
      exact {
        setCookie_iff := by
          rw [responseOf, same]
          exact ⟨fun _ => .inr ⟨posts, rfl⟩, fun _ => rfl⟩
        handsOut := fun other => absurd other neither
        takesBack := fun _ _ => ⟨token, takesBack⟩
        leaves := fun plain => by
          rw [responseOf, same] at plain
          cases plain
        loginStatus := fun other => absurd other noLogin
        registerStatus := fun other => absurd other noRegister
        logoutStatus := fun _ => status
        unread := fun bodyError other => absurd other (elsewhere bodyError) }
  | error error =>
      have failed := failureResponse_status_ne error
      exact {
        setCookie_iff := by
          constructor
          · rintro ⟨⟩
          · rintro (⟨other, -⟩ | ⟨-, ended⟩)
            · exact absurd other neither
            · exact absurd ended failed.2
        handsOut := fun other => absurd other neither
        takesBack := fun _ ended => absurd ended failed.2
        leaves := fun _ => course.leavesSessions
        loginStatus := fun other => absurd other noLogin
        registerStatus := fun other => absurd other noRegister
        logoutStatus := fun _ => status
        unread := fun bodyError other => absurd other (elsewhere bodyError) }

/-- In every state that a service can come to, whatever is requested and whichever questions the
stores fail, the response agrees with what has become of the sessions. -/
theorem responses_agree (reachable : core.IsReachable)
    (converses : (Router.standard.answer manager request).Converses turns response)
    (follows : core.Follows turns after) :
    Agrees manager request core turns response after := by
  have regular := reachable.isRegular
  cases converses_answer converses with
  | login posts course => exact course.agrees posts regular follows
  | register posts course => exact course.agrees posts regular follows
  | logout posts course => exact course.agrees posts regular follows
  | other elsewhere asks plain =>
      have noLogin : ¬ request.Posts "/login" := fun posts => elsewhere (.inl posts)
      have noRegister : ¬ request.Posts "/register" := fun posts => elsewhere (.inr (.inl posts))
      have noLogout : ¬ request.Posts "/logout" := fun posts => elsewhere (.inr (.inr posts))
      exact {
        setCookie_iff := by simp [noLogin, noRegister, noLogout, plain]
        handsOut := by simp [noLogin, noRegister]
        takesBack := fun other => absurd other noLogout
        leaves := fun _ => by
          rcases asks with rfl | ⟨known, asks⟩
          · exact ⟨by simp, by simp⟩
          · exact asks.isAside.leavesSessions
        loginStatus := fun other => absurd other noLogin
        registerStatus := fun other => absurd other noRegister
        logoutStatus := fun other => absurd other noLogout
        unread := by simp [noLogin, noRegister] }

/-! ## A first login -/

/-- A service whose only account is the owner's, at an instant. -/
def ownersWorld (now : Instant) : World :=
  (Act.perform (.insertUser firstRow)
    (.start now (fun _ => .replicate 8 0) fun _ => .replicate 32 0)).2

/-- A request of the owner to log in, from a caller without a cookie. -/
def loginRequest : Request :=
  { firstRequest with path := "/login" }

theorem presentedCredentials_loginRequest :
    presentedCredentials loginRequest = .ok ⟨"a@b.c", "b"⟩ := by
  cbv

theorem ownersWorld_isReachable (now : Instant) : (ownersWorld now).core.IsReachable :=
  .acted (.start now _ _) (.insertUser firstRow)

theorem run_answer_loginRequest {now : Instant} {ttl : Span} {session : Session}
    {lifetime : Lifetime} {expires : Option Instant}
    (opened : Manager.openSession ⟨Manager.cheap.hasher, ttl⟩ .owner now
      (Token.ofBytes (.replicate 32 0)) = .ok (session, lifetime))
    (expiry : ExpiringMap.expiry now (some lifetime) = .ok expires) :
    ∃ after : Core, (ownersWorld now).core.run
        (Router.standard.answer ⟨Manager.cheap.hasher, ttl⟩ loginRequest) =
      (handingOut 1 session.token session.expiresAt, after) ∧ after.IsSound ∧ after.now = now ∧
        after.sessions.find? session.token = some ⟨session.identity.encode, expires⟩ := by
  have sound := (ownersWorld_isReachable now).isRegular.sound
  have known : (ownersWorld now).core.users.find? "a@b.c" = some .owner := rfl
  have token : (ownersWorld now).core.nextToken = Token.ofBytes (.replicate 32 0) := rfl
  have clock : (ownersWorld now).core.now = now := World.perform_now (.insertUser firstRow)
    (.start now (fun _ => .replicate 8 0) fun _ => .replicate 32 0)
  generalize (ownersWorld now).core = core at sound known token clock
  subst clock
  have drawn : session.token = Token.ofBytes (.replicate 32 0) :=
    (Manager.eq_of_openSession opened).1
  rw [← token] at opened
  have right : (Manager.mk Manager.cheap.hasher ttl).hasher.verifies (Octets.ofText "b")
    User.owner.password = true := Hasher.verifies_owner
  have notBlank : session.token.isEmpty = false := drawn ▸ Token.isEmpty_ofBytes _
  have entered : core.attempt (Manager.login ⟨Manager.cheap.hasher, ttl⟩ ⟨"a@b.c", "b"⟩) = _ :=
    Core.login_ok_of_expiry sound known right opened notBlank expiry
  refine ⟨_, Core.run_answer_of_login ⟨rfl, rfl⟩ carrier?_firstRequest
    presentedCredentials_loginRequest entered, ⟨sound.users, sound.sessions⟩, rfl, ?_⟩
  exact (ExpiringMap.find?_insert _ _ _ _).trans (if_pos rfl)

/-- What the stores answer to the owner's first login agrees with the response to it. -/
theorem first_login_agrees :
    ∃ turns response after, (ownersWorld .epoch).core.IsReachable ∧
      (Router.standard.answer .cheap loginRequest).Converses turns response ∧
      (ownersWorld .epoch).core.Follows turns after ∧ response.status = 200 ∧
      Agrees .cheap loginRequest (ownersWorld .epoch).core turns response after := by
  have reachable := ownersWorld_isReachable .epoch
  have converses := Program.converses_transcript Core.answer
    (Router.standard.answer .cheap loginRequest) (ownersWorld .epoch).core
  have follows := Core.follows_transcript (Router.standard.answer .cheap loginRequest)
    (ownersWorld .epoch).core
  have canOpen : Manager.cheap.CanOpen .epoch := ⟨_, rfl, by decide +kernel⟩
  obtain ⟨⟨session, lifetime⟩, opened⟩ := Manager.exists_openSession_iff.mpr canOpen
  obtain ⟨expires, expiry, -⟩ := Manager.exists_expiry_of_openSession opened
  obtain ⟨after, answered, -⟩ := run_answer_loginRequest opened expiry
  refine ⟨_, _, _, reachable, converses, follows, ?_, responses_agree reachable converses follows⟩
  exact congrArg (fun run => run.1.status) answered

end Http

/-! ## A login in a leap second -/

/-- The middle of a leap second at the end of a day. -/
def Time.Instant.midLeapSecond : Instant :=
  ⟨86399, 1500000000, endOfLeapSecond.notBefore, endOfLeapSecond.notAfter, by decide⟩

/-- A manager with cheap costs, whose sessions last a second. -/
def Manager.brief : Manager :=
  ⟨Manager.cheap.hasher, ⟨1000000000, by decide, by decide⟩⟩

/-- The session of the owner that is opened in the middle of a leap second has no time to live. -/
theorem Manager.openSession_midLeapSecond (token : String) :
    brief.openSession .owner .midLeapSecond token =
      .ok (⟨token, ⟨86400, 500000000, by decide, by decide, by decide⟩, 1, .user⟩,
        ⟨0, by decide⟩) := by
  have sum : Instant.midLeapSecond.add? brief.ttl =
      some ⟨86400, 500000000, by decide, by decide, by decide⟩ := rfl
  have lasts : Span.toLifetime? (Instant.since ⟨86400, 500000000, by decide, by decide, by decide⟩
      .midLeapSecond) = some ⟨0, by decide⟩ := Span.toLifetime?_eq_some_iff.mpr (by decide)
  rw [openSession, sum]
  dsimp only
  rw [lasts]
  rfl

/-- In a leap second a caller who has logged in may be refused at once, although sessions last a
second and the clock has not moved. -/
theorem Http.refused_in_leap_second :
    (ownersWorld .midLeapSecond).core.IsReachable ∧ 0 < Manager.brief.ttl.nanos ∧
      ∃ token expires after,
        (ownersWorld .midLeapSecond).core.run (Router.standard.answer .brief loginRequest) =
          (handingOut 1 token expires, after) ∧
        (handingOut 1 token expires).status = 200 ∧ after.now = .midLeapSecond ∧
        Cookie.carrier? [⟨"Cookie", Octets.ofText (Cookie.name ++ "=" ++ token)⟩] =
          some ⟨token, none⟩ ∧
        (after.attempt (Gate.authenticate (some ⟨token, none⟩))).1 = .error .notFound := by
  have expiry : ExpiringMap.expiry Instant.midLeapSecond (some ⟨0, by decide⟩) =
      .ok (some .midLeapSecond) := rfl
  obtain ⟨after, answered, sound, now, found⟩ :=
    run_answer_loginRequest (Manager.openSession_midLeapSecond _) expiry
  refine ⟨ownersWorld_isReachable _, by decide, _, _, after, answered, rfl, now,
    Cookie.carrier?_ofBytes _, ?_⟩
  have dead : after.sessions.live? after.now (Token.ofBytes (.replicate 32 0)) = none := by
    rw [ExpiringMap.live?, found, now]
    rfl
  rw [Core.attempt_authenticate_of_sound sound (Token.isEmpty_ofBytes _), dead]
  rfl

end SessionGate
