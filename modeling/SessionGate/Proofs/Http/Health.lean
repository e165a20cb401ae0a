import SessionGate.Proofs.Http.Outcomes
import SessionGate.Proofs.Http.Responses
import SessionGate.Proofs.Runs.Act
import SessionGate.Proofs.Sessions.Health

/-!
# Requests to a service in health

A request to a service in health meets no fault of the server, as long as the password to be hashed
is not too long and the session that a login opens has an end.
-/

namespace SessionGate

open Time Http

/-- The call hashes no password that is too long, and opens a session only where one has an end. -/
def Call.IsFit (now : Instant) : Call → Prop
  | .register _ user | .provision _ user _ => IsHashable user.password
  | .login manager _ => manager.CanOpen now
  | _ => True

def Deed.IsFit (deed : Deed) : Prop :=
  deed.call.IsFit deed.before.now

/-- The response does not tell of a fault of the server. -/
def Http.Response.IsFaultless (response : Response) : Prop :=
  response.status < 500

namespace Http

variable {manager : Manager} {request : Request} {world : World} {core : Core}

/-! ## What handlers come to -/

theorem isFaultless_of_status {α : Type} {result : Except AuthError α}
    (refuses : ∀ error, result = .error error → error.status = 400) : IsFaultless result := by
  rintro fault rfl
  cases refuses _ rfl

theorem isFaultless_enter (healthy : core.Healthy) (canOpen : manager.CanOpen core.now)
    (credentials : Credentials) (id : UserId → UserId) :
    IsFaultless
      (match core.attempt (manager.login credentials) with
        | (.error error, core) => (.error error, core)
        | (.ok (session, owner), core) => (sessionResponse session (id owner), core) :
          Except AuthError Response × Core).1 := by
  have faultless := healthy.isFaultless_login canOpen credentials
  rcases entered : core.attempt (manager.login credentials) with ⟨error | ⟨session, owner⟩, after⟩
  · rw [entered] at faultless
    exact faultless.error
  · dsimp only
    rw [Core.sessionResponse_of_attempt (congrArg Prod.fst entered)]
    exact isFaultless_ok _

theorem isFaultless_login (healthy : world.core.Healthy)
    (fit : ∀ deed ∈ loginDeeds manager request world, deed.IsFit) :
    IsFaultless (world.core.attempt (login manager request)).1 := by
  have asked := healthy.attempt (Gate.authenticate (Cookie.carrier? request.headers))
  rw [Core.attempt_httpLogin]
  rw [World.attempt_core] at asked ⊢
  rw [loginDeeds] at fit
  -- What the handler goes on to do depends on the gate, and the deeds branch where it does.
  revert fit
  have presents := isFaultless_of_status (status_presentedCredentials request)
  cases (world.attempt (Gate.authenticate (Cookie.carrier? request.headers))).1 with
  | ok identity => rintro _ _ ⟨⟩
  | error error =>
      revert presents
      cases presentedCredentials request with
      | error error => exact fun presents _ => presents.error
      | ok credentials =>
          intro _ fit
          have canOpen := fit _ (List.mem_cons_of_mem _ List.mem_cons_self)
          exact isFaultless_enter asked canOpen credentials id

theorem isFaultless_register (healthy : world.core.Healthy)
    (fit : ∀ deed ∈ registerDeeds manager request world, deed.IsFit) :
    IsFaultless (world.core.attempt (register manager request)).1 := by
  have asked := healthy.attempt (Gate.authenticate (Cookie.carrier? request.headers))
  have afterwards : (gateDeed request world).after =
      (world.attempt (Gate.authenticate (Cookie.carrier? request.headers))).2 := rfl
  rw [Core.attempt_httpRegister]
  rw [World.attempt_core] at asked ⊢
  rw [registerDeeds, afterwards] at fit
  revert fit asked
  generalize (world.attempt (Gate.authenticate (Cookie.carrier? request.headers))).2 = refused
  have presents := isFaultless_of_status (status_presentedUser request)
  cases (world.attempt (Gate.authenticate (Cookie.carrier? request.headers))).1 with
  | ok identity => rintro _ _ _ ⟨⟩
  | error error =>
      revert presents
      cases presentedUser request with
      | error error => exact fun presents _ _ => presents.error
      | ok user =>
          intro _ fit asked
          have hashable := fit _ (List.mem_cons_of_mem _ List.mem_cons_self)
          have faultless : IsFaultless (refused.core.attempt (manager.register user)).1 :=
            asked.isFaultless_register hashable
          have opened := asked.attempt (manager.register user)
          dsimp only
          rw [Core.registered]
          rw [World.attempt_core] at faultless opened ⊢
          dsimp only at fit
          cases registered : (refused.attempt (manager.register user)).1 with
          | error error => exact (registered ▸ faultless).error
          | ok id =>
              rw [registered] at fit
              have canOpen := fit _
                (List.mem_cons_of_mem _ (List.mem_cons_of_mem _ List.mem_cons_self))
              exact isFaultless_enter opened canOpen user.credentials fun _ => id

theorem isFaultless_logout (healthy : world.core.Healthy) :
    IsFaultless (world.core.attempt (logout request)).1 := by
  rw [Core.attempt_httpLogout]
  cases Cookie.carrier? request.headers with
  | none => rintro _ ⟨⟩
  | some carrier =>
      have accepts := healthy.isFaultless_authenticate (some carrier)
      have asked := healthy.attempt (Gate.authenticate (some carrier))
      dsimp only
      revert accepts asked
      rcases world.core.attempt (Gate.authenticate (some carrier)) with ⟨error | identity, accepted⟩
      · exact fun accepts _ => accepts.error
      intro _ asked
      have revokes := asked.isFaultless_logout carrier.token
      dsimp only at revokes ⊢
      revert revokes
      rcases accepted.attempt (Manager.logout carrier.token) with ⟨error | value, after⟩
      · exact fun revokes => revokes.error
      · exact fun _ => isFaultless_ok _

theorem isFaultless_ofIdentity {answer : Identity → Action Response}
    (shows : ∀ identity core, IsFaultless (Core.attempt (answer identity) core).1)
    (manager : Manager) (request : Request) (identity : Option Identity) (core : Core) :
    IsFaultless (core.attempt (Handler.ofIdentity answer manager request identity)).1 := by
  cases identity with
  | none => rintro _ ⟨⟩
  | some identity => exact shows identity core

theorem isFaultless_currentSession (identity : Identity) (core : Core) :
    IsFaultless (core.attempt (currentSession identity)).1 :=
  nofun

theorem isFaultless_moderation (identity : Identity) (core : Core) :
    IsFaultless (core.attempt (moderation identity)).1 := by
  obtain ⟨id, role⟩ := identity
  cases role <;> rintro _ ⟨⟩

/-- No handler of a service fails by itself where its deeds are fit. -/
theorem isFaultless_handler {route : Route} {doings : Doings}
    (member : (route, doings) ∈ describedRoutes []) (healthy : world.core.Healthy)
    (fit : ∀ deed ∈ doings manager request world, deed.IsFit) (identity : Option Identity) :
    IsFaultless (world.core.attempt (route.handler manager request identity)).1 := by
  simp only [describedRoutes, Router.entryPoints, Router.standardGated, List.zip_cons_cons,
    List.zip_nil_left, List.append_nil, List.map_cons, List.map_nil, List.cons_append,
    List.nil_append, List.mem_cons, Prod.mk.injEq, List.not_mem_nil, or_false] at member
  obtain ⟨rfl, rfl⟩ | ⟨rfl, rfl⟩ | ⟨rfl, -⟩ | ⟨rfl, -⟩ | ⟨rfl, -⟩ | ⟨rfl, -⟩ := member
  · exact isFaultless_login healthy fit
  · exact isFaultless_register healthy fit
  · exact isFaultless_logout healthy
  · exact isFaultless_ok _
  · exact isFaultless_ofIdentity isFaultless_currentSession manager request identity _
  · exact isFaultless_ofIdentity isFaultless_moderation manager request identity _

/-! ## Fit requests -/

theorem gateDeed_isFit (request : Request) (world : World) : (gateDeed request world).IsFit :=
  trivial

theorem now_after_gateDeed (request : Request) (world : World) :
    (gateDeed request world).after.now = world.now :=
  (World.precedes_call (gateDeed request world).call world).now

/-- What a request makes a handler do is fit where what it presents is not too long and a session
can be opened. -/
theorem isFit_of_mem_doings {route : Route} {doings : Doings}
    (described : (route, doings) ∈ describedRoutes [])
    (hashable : ∀ user, presentedUser request = .ok user → IsHashable user.password)
    (canOpen : manager.CanOpen world.now) {deed : Deed}
    (member : deed ∈ doings manager request world) : deed.IsFit := by
  have gate := gateDeed_isFit request world
  have now := now_after_gateDeed request world
  simp only [describedRoutes, Router.entryPoints, Router.standardGated, List.zip_cons_cons,
    List.zip_nil_left, List.append_nil, List.map_cons, List.map_nil, List.cons_append,
    List.nil_append, List.mem_cons, Prod.mk.injEq, List.not_mem_nil, or_false] at described
  obtain ⟨-, rfl⟩ | ⟨-, rfl⟩ | ⟨-, rfl⟩ | ⟨-, rfl⟩ | ⟨-, rfl⟩ | ⟨-, rfl⟩ := described
  · rcases List.mem_cons.mp member with rfl | later
    · exact gate
    · split at later
      · obtain rfl := List.mem_singleton.mp later
        exact (now ▸ canOpen : manager.CanOpen (gateDeed request world).after.now)
      · cases later
  · rcases List.mem_cons.mp member with rfl | later
    · exact gate
    · split at later
      · rename_i error user _ presented
        rcases List.mem_cons.mp later with rfl | last
        · exact hashable user presented
        · split at last
          · obtain rfl := List.mem_singleton.mp last
            have same := (World.precedes_call (.register manager user)
              (gateDeed request world).after).now
            change manager.CanOpen
              ((Call.register manager user).perform (gateDeed request world).after).2.core.now
            rw [same, World.core_now, now]
            exact canOpen
          · cases last
      · cases later
  · rw [logoutDeeds] at member
    split at member
    · cases member
    · rcases List.mem_cons.mp member with rfl | later
      · exact gate
      · split at later
        · obtain rfl := List.mem_singleton.mp later
          trivial
        · cases later
  all_goals cases member

theorem isFit_of_mem_dispatchDeeds {route : Route} {doings : Doings}
    (described : (route, doings) ∈ describedRoutes [])
    (hashable : ∀ user, presentedUser request = .ok user → IsHashable user.password)
    (canOpen : manager.CanOpen world.now) {deed : Deed}
    (member : deed ∈ dispatchDeeds route doings manager request world) : deed.IsFit := by
  rw [dispatchDeeds] at member
  split at member
  · exact isFit_of_mem_doings described hashable canOpen member
  · cases member

/-- A request is fit where what it presents is not too long and a session can be opened. -/
theorem isFit_of_mem_requestDeeds
    (hashable : ∀ user, presentedUser request = .ok user → IsHashable user.password)
    (canOpen : manager.CanOpen world.now) :
    ∀ deed ∈ requestDeeds [] manager request world, deed.IsFit := by
  intro deed member
  rw [requestDeeds] at member
  split at member
  · rename_i route doings found
    have described := List.mem_of_find?_eq_some found
    rw [routeDeeds] at member
    split at member
    · rcases List.mem_cons.mp member with rfl | later
      · exact gateDeed_isFit request world
      · split at later
        · exact isFit_of_mem_dispatchDeeds described hashable
            (now_after_gateDeed request world ▸ canOpen) later
        · cases later
    · exact isFit_of_mem_dispatchDeeds described hashable canOpen member
  · cases member

/-! ## Statuses -/

theorem failureResponse_isFaultless {α : Type} {error : AuthError}
    (faultless : SessionGate.IsFaultless (Except.error error : Except AuthError α)) :
    (failureResponse error).IsFaultless := by
  change error.status < 500
  cases error with
  | internal fault => exact absurd rfl (faultless fault)
  | _ => simp [AuthError.status]

theorem sessionResponse_isFaultless {session : Session} {id : UserId} {response : Response}
    (made : sessionResponse session id = .ok response) : response.IsFaultless := by
  rw [sessionResponse] at made
  cases issued : Cookie.issue session with
  | error error => simp [issued, Except.map] at made
  | ok cookie =>
      rw [issued] at made
      obtain rfl := Except.ok.inj made
      change 200 < 500
      decide

theorem ofStatus_isFaultless {status : Nat} (small : status < 500) :
    (Response.ofStatus status).IsFaultless :=
  small

theorem handler_yields {route : Route} (member : route ∈ Router.standard.routes)
    (manager : Manager) (request : Request) (identity : Option Identity) :
    (route.handler manager request identity).Yields Response.IsFaultless := by
  simp only [Router.standard, Router.withGated, Router.entryPoints, Router.standardGated,
    List.cons_append, List.nil_append, List.append_nil, List.mem_cons, List.not_mem_nil,
    or_false] at member
  obtain rfl | rfl | rfl | rfl | rfl | rfl := member
  · exact login_yields (fun _ _ _ => sessionResponse_isFaultless) manager request
  · exact register_yields (fun _ _ _ => sessionResponse_isFaultless) manager request
  · exact logout_yields (fun _ => ofStatus_isFaultless (by decide)) request
  · exact Action.yields_pure (ofStatus_isFaultless (by decide))
  · exact ofIdentity_yields manager request fun known _ =>
      Action.yields_pure (ofStatus_isFaultless (by decide))
  · exact ofIdentity_yields manager request fun known _ =>
      Action.yields_bind fun _ => Action.yields_pure (ofStatus_isFaultless (by decide))

/-! ## Responses -/

theorem respond_isFaultless {action : Action Response}
    (faultless : SessionGate.IsFaultless (core.attempt action).1)
    (yields : action.Yields Response.IsFaultless) :
    (core.run (respond action)).1.IsFaultless := by
  have handled := yields core
  rw [Core.run_respond]
  revert faultless handled
  rcases core.attempt action with ⟨error | response, after⟩
  · intro faultless _
    simp only [Core.run_failure]
    exact failureResponse_isFaultless faultless
  · exact fun _ handled => handled response rfl

variable {route : Route} {doings : Doings}

theorem dispatch_isFaultless (member : (route, doings) ∈ describedRoutes [])
    (healthy : world.core.Healthy)
    (fit : ∀ deed ∈ dispatchDeeds route doings manager request world, deed.IsFit)
    (identity : Option Identity) :
    (world.core.run (route.dispatch manager request identity)).1.IsFaultless := by
  have standard : route ∈ Router.standard.routes := by
    have first := List.mem_map_of_mem (f := Prod.fst) member
    rwa [describedRoutes_fst] at first
  rw [Core.run_dispatch]
  rw [dispatchDeeds] at fit
  cases admitted : route.method.admits request.method with
  | false => exact ofStatus_isFaultless (by decide)
  | true =>
      rw [admitted] at fit
      exact respond_isFaultless (isFaultless_handler member healthy fit identity)
        (handler_yields standard manager request identity)

theorem throughGate_isFaultless (member : (route, doings) ∈ describedRoutes [])
    (healthy : world.core.Healthy)
    (fit : ∀ deed ∈ routeDeeds route doings manager request world, deed.IsFit) :
    (world.core.run (route.throughGate manager request)).1.IsFaultless := by
  rw [routeDeeds] at fit
  cases gated : route.isGated with
  | false =>
      rw [gated] at fit
      rw [Core.run_throughGate_of_not_isGated gated]
      exact dispatch_isFaultless member healthy fit none
  | true =>
      have accepts := healthy.isFaultless_authenticate (Cookie.carrier? request.headers)
      have asked := healthy.attempt (Gate.authenticate (Cookie.carrier? request.headers))
      rw [gated] at fit
      rw [Core.run_throughGate_of_isGated gated]
      rw [World.attempt_core] at accepts asked ⊢
      revert accepts fit
      cases (world.attempt (Gate.authenticate (Cookie.carrier? request.headers))).1 with
      | error error =>
          intro _ accepts
          simp only [Core.run_failure]
          exact failureResponse_isFaultless accepts
      | ok identity =>
          intro fit _
          refine dispatch_isFaultless member asked (fun deed inside => ?_) (some identity)
          exact fit deed (List.mem_cons_of_mem _ inside)

/-- The route that answers is the one whose doings are described. -/
theorem find?_standard (path : String) : Router.standard.routes.find? (·.accepts path) =
    ((describedRoutes []).find? fun (route, _) => route.accepts path).map Prod.fst := by
  rw [Router.standard, ← describedRoutes_fst, List.find?_map]
  rfl

/-- A service in health answers fit requests without a fault. -/
theorem answer_isFaultless (healthy : world.core.Healthy)
    (fit : ∀ deed ∈ requestDeeds [] manager request world, deed.IsFit) :
    (world.core.run (Router.standard.answer manager request)).1.IsFaultless := by
  have routes := find?_standard request.path
  rw [requestDeeds] at fit
  cases found : (describedRoutes []).find? _ with
  | none =>
      rw [found] at routes
      rw [Core.run_answer_of_find?_none routes]
      exact ofStatus_isFaultless (by decide)
  | some described =>
      obtain ⟨route, doings⟩ := described
      rw [found] at routes fit
      rw [Core.run_answer_of_find? routes, Core.run_routeAnswer, Response.IsFaultless,
        complete_status]
      exact throughGate_isFaultless (List.mem_of_find?_eq_some found) healthy fit

end Http

end SessionGate
