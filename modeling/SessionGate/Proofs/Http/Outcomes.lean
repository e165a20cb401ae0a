import SessionGate.Proofs.Http.Answers

/-!
# What requests come to

What the handlers of the entry points come to, and what they leave behind, from what the operations
that they call come to.
-/

namespace SessionGate.Core

open Http

variable {manager : Manager} {core : Core}

theorem sessionResponse_of_attempt {credentials : Credentials} {session : Session} {owner : UserId}
    (opened : (core.attempt (manager.login credentials)).1 = .ok (session, owner)) (id : UserId) :
    sessionResponse session id = .ok (handingOut id session.token session.expiresAt) := by
  have converses := (manager.login credentials).converses_transcript Core.answer core
  have logsIn := Manager.converses_login converses
  change manager.LogsIn credentials _ (core.attempt (manager.login credentials)).1 at logsIn
  rw [opened] at logsIn
  exact sessionResponse_of_logsIn logsIn id

/-- What is made of a login by its handler. -/
def loggedIn (manager : Manager) (credentials : Credentials) (core : Core) :
    Except AuthError Response × Core :=
  match core.attempt (manager.login credentials) with
  | (.error error, core) => (.error error, core)
  | (.ok (session, id), core) => (sessionResponse session id, core)

theorem attempt_httpLogin (manager : Manager) (request : Request) (core : Core) :
    core.attempt (Http.login manager request) =
      match core.attempt (Gate.authenticate (Cookie.carrier? request.headers)) with
      | (.ok _, core) => (.error .unauthorized, core)
      | (.error _, core) =>
          match presentedCredentials request with
          | .error error => (.error error, core)
          | .ok credentials => core.loggedIn manager credentials := by
  rw [login_eq, attempt_bind, attempt_refuseLiveSession]
  rcases core.attempt (Gate.authenticate (Cookie.carrier? request.headers)) with
    ⟨refusal | identity, refused⟩
  · dsimp only
    cases presentedCredentials request with
    | error error => rfl
    | ok credentials =>
        dsimp only
        rw [loginWith, attempt_bind, loggedIn]
        rcases refused.attempt (manager.login credentials) with ⟨error | ⟨session, id⟩, after⟩ <;>
          rfl
  · rfl

/-- What is made of a registration by its handler: the user is logged in at once. -/
def registered (manager : Manager) (user : NewUser) (core : Core) :
    Except AuthError Response × Core :=
  match core.attempt (manager.register user) with
  | (.error error, core) => (.error error, core)
  | (.ok id, core) =>
      match core.attempt (manager.login user.credentials) with
      | (.error error, core) => (.error error, core)
      | (.ok (session, _), core) => (sessionResponse session id, core)

theorem attempt_httpRegister (manager : Manager) (request : Request) (core : Core) :
    core.attempt (Http.register manager request) =
      match core.attempt (Gate.authenticate (Cookie.carrier? request.headers)) with
      | (.ok _, core) => (.error .unauthorized, core)
      | (.error _, core) =>
          match presentedUser request with
          | .error error => (.error error, core)
          | .ok user => core.registered manager user := by
  rw [register_eq, attempt_bind, attempt_refuseLiveSession]
  rcases core.attempt (Gate.authenticate (Cookie.carrier? request.headers)) with
    ⟨refusal | identity, refused⟩
  · dsimp only
    cases presentedUser request with
    | error error => rfl
    | ok user =>
        dsimp only
        rw [registerWith, attempt_bind, registered]
        rcases refused.attempt (manager.register user) with ⟨error | id, opened⟩
        · rfl
        · dsimp only
          rw [attempt_bind]
          rcases opened.attempt (manager.login user.credentials) with
            ⟨error | ⟨session, owner⟩, after⟩ <;> rfl
  · rfl

theorem attempt_httpLogout (request : Request) (core : Core) :
    core.attempt (Http.logout request) =
      match Cookie.carrier? request.headers with
      | none => (.error .unauthorized, core)
      | some carrier =>
          match core.attempt (Gate.authenticate (some carrier)) with
          | (.error error, core) => (.error error, core)
          | (.ok _, core) =>
              match core.attempt (Manager.logout carrier.token) with
              | (.error error, core) => (.error error, core)
              | (.ok _, core) =>
                  (.ok ((Response.ofStatus 204).withCookie
                    (Octets.ofText (Cookie.headerText "" core.now))), core) := by
  rw [Http.logout]
  cases Cookie.carrier? request.headers with
  | none => rfl
  | some carrier =>
      dsimp only
      rw [attempt_bind]
      rcases core.attempt (Gate.authenticate (some carrier)) with ⟨error | identity, accepted⟩
      · rfl
      dsimp only
      rw [attempt_bind]
      rcases accepted.attempt (Manager.logout carrier.token) with ⟨error | value, after⟩
      · rfl
      dsimp only
      rw [attempt_bind, attempt_logService]
      dsimp only
      rw [attempt_bind, attempt_readClock]
      dsimp only
      rw [attempt_bind, attempt_settle, Cookie.clear_eq]
      rfl

theorem complete_of_post {route : Route} {request : Request} (post : route.method = .post)
    (posted : request.method = "POST") (response : Response) :
    route.complete request response = response := by
  simp [Route.complete, RouteMethod.admits, post, posted]

/-- A stranger who logs in is handed the session that has been opened. -/
theorem run_answer_of_login {request : Request} {credentials : Credentials} {session : Session}
    {id : UserId} {core after : Core} (posts : request.Posts "/login")
    (stranger : Cookie.carrier? request.headers = none)
    (presented : presentedCredentials request = .ok credentials)
    (entered : core.attempt (manager.login credentials) = (.ok (session, id), after)) :
    core.run (Router.standard.answer manager request) =
      (handingOut id session.token session.expiresAt, after) := by
  obtain ⟨posted, path⟩ := posts
  have answered : core.attempt (Handler.ofAnyone Http.login manager request none) =
      (.ok (handingOut id session.token session.expiresAt), after) := by
    have refused : core.attempt (Gate.authenticate none) = (.error .unauthorized, core) := rfl
    have handed := sessionResponse_of_attempt (congrArg Prod.fst entered) id
    change core.attempt (Http.login manager request) = _
    rw [attempt_httpLogin, stranger, refused]
    dsimp only
    rw [presented]
    dsimp only
    rw [loggedIn, entered]
    dsimp only
    rw [handed]
  have found : Router.standard.routes.find? (·.accepts request.path) = _ := path ▸ find?_login []
  have admitted : RouteMethod.post.admits request.method = true := by
    rw [posted]
    rfl
  rw [run_answer_of_find? found, run_routeAnswer, run_throughGate_of_not_isGated rfl, run_dispatch,
    admitted, if_pos rfl, run_respond]
  rw [answered]
  dsimp only
  rw [complete_of_post rfl posted]

end SessionGate.Core
