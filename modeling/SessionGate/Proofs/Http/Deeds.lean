import SessionGate.Proofs.Http.Runs
import SessionGate.Proofs.Sessions.History

/-!
# What requests do

A request acts on sessions and accounts through calls on the session rules only. The entry points
and the gate determine which calls those are; a handler behind the gate that asks no store adds
none.
-/

namespace SessionGate.Http

/-- The deed of asking the gate. -/
def gateDeed (request : Request) (world : World) : Deed :=
  ⟨world, .authenticate (Cookie.carrier? request.headers)⟩

/-- What a request to log in presents, if it is fit for use. -/
def presentedCredentials (request : Request) : Except AuthError Credentials := do
  let presented ← readBody Credentials.read request
  let credentials : Credentials := { presented with email := Text.trim presented.email }
  checkCredentials credentials.email credentials.password
  return credentials

/-- What a request to open an account presents, if it is fit for use. -/
def presentedUser (request : Request) : Except AuthError NewUser := do
  let presented ← readBody NewUser.read request
  let user : NewUser := { presented with email := Text.trim presented.email }
  checkCredentials user.email user.password
  return user

/-- What a request does where its handler is called. -/
abbrev Doings := Manager → Request → World → List Deed

/-- A caller without a live session is logged in with the credentials presented. -/
def loginDeeds : Doings := fun manager request world =>
  let gate := gateDeed request world
  gate ::
    match (world.attempt (Gate.authenticate (Cookie.carrier? request.headers))).1,
        presentedCredentials request with
    | .error _, .ok credentials => [⟨gate.after, .login manager credentials⟩]
    | _, _ => []

/-- A caller without a live session is registered, and logged in where that succeeds. -/
def registerDeeds : Doings := fun manager request world =>
  let gate := gateDeed request world
  gate ::
    match (world.attempt (Gate.authenticate (Cookie.carrier? request.headers))).1,
        presentedUser request with
    | .error _, .ok user =>
        let opening : Deed := ⟨gate.after, .register manager user⟩
        opening ::
          match (gate.after.attempt (manager.register user)).1 with
          | .ok _ => [⟨opening.after, .login manager user.credentials⟩]
          | .error _ => []
    | _, _ => []

/-- A caller that the gate accepts is logged out. -/
def logoutDeeds : Doings := fun _ request world =>
  match Cookie.carrier? request.headers with
  | none => []
  | some carrier =>
      let gate := gateDeed request world
      gate ::
        match (world.attempt (Gate.authenticate (some carrier))).1 with
        | .ok _ => [⟨gate.after, .logout carrier.token⟩]
        | .error _ => []

/-- A handler that makes no calls. -/
def noDeeds : Doings := fun _ _ _ => []

/-- The routes of a service, each with what its handler does. -/
def describedRoutes (more : List Route) : List (Route × Doings) :=
  Router.entryPoints.zip [loginDeeds, registerDeeds, logoutDeeds, noDeeds] ++
    (Router.standardGated ++ more).map fun route => (route, noDeeds)

/-- What a handler does if the request's method is answered. -/
def dispatchDeeds (route : Route) (doings : Doings) : Doings := fun manager request world =>
  if route.method.admits request.method then doings manager request world else []

/-- What a request to a route does: a handler behind the gate is called for those accepted. -/
def routeDeeds (route : Route) (doings : Doings) : Doings := fun manager request world =>
  if route.isGated then
    let gate := gateDeed request world
    gate ::
      match (world.attempt (Gate.authenticate (Cookie.carrier? request.headers))).1 with
      | .ok _ => dispatchDeeds route doings manager request gate.after
      | .error _ => []
  else dispatchDeeds route doings manager request world

/-- What a request to a service with more gated routes of its own does. -/
def requestDeeds (more : List Route) : Doings := fun manager request world =>
  match (describedRoutes more).find? fun (route, _) => route.accepts request.path with
  | some (route, doings) => routeDeeds route doings manager request world
  | none => []

/-- The handler of the route leaves everything as it is, apart from the journal. -/
def Route.IsQuiet (route : Route) : Prop :=
  ∀ manager request identity world,
    (World.attempt (route.handler manager request identity) world).2.core = world.core

/-- The deeds lead to what the handler of the route leaves. -/
def Route.Does (route : Route) (doings : Doings) : Prop :=
  ∀ manager request identity world, Leads world.core (doings manager request world)
    (world.core.attempt (route.handler manager request identity)).2

theorem describedRoutes_fst (more : List Route) :
    (describedRoutes more).map Prod.fst = (Router.withGated more).routes := by
  simp [describedRoutes, Router.withGated, Router.entryPoints, Function.comp_def]

/-- What follows a refusal of live sessions happens where the gate refuses. -/
theorem attempt_refuseLiveSession_bind_snd (next : Action Response) (headers : List Header)
    (core : Core) :
    (core.attempt (refuseLiveSession headers >>= fun _ => next)).2 =
      match core.attempt (Gate.authenticate (Cookie.carrier? headers)) with
      | (.ok _, core) => core
      | (.error _, core) => (core.attempt next).2 := by
  rw [Core.attempt_bind, Core.attempt_refuseLiveSession]
  rcases core.attempt (Gate.authenticate (Cookie.carrier? headers)) with ⟨error | identity, after⟩
  · rfl
  · rfl

/-- What is presented is settled before anything else is done with it. -/
theorem attempt_presentedCredentials (next : Credentials → Action Response) (request : Request)
    (core : Core) :
    core.attempt (do
      let presented ← settle (readBody Credentials.read request)
      let credentials : Credentials := { presented with email := Text.trim presented.email }
      settle (checkCredentials credentials.email credentials.password)
      next credentials) =
      match presentedCredentials request with
      | .ok credentials => core.attempt (next credentials)
      | .error error => (.error error, core) := by
  rw [Core.attempt_bind, Core.attempt_settle, presentedCredentials]
  cases readBody Credentials.read request with
  | error error => rfl
  | ok presented =>
      dsimp only
      rw [Core.attempt_bind, Core.attempt_settle]
      cases checked : checkCredentials (Text.trim presented.email) presented.password with
      | error error => simp [checked, bind, Except.bind]
      | ok value => simp [checked, bind, Except.bind, pure, Except.pure]

theorem attempt_presentedUser (next : NewUser → Action Response) (request : Request)
    (core : Core) :
    core.attempt (do
      let presented ← settle (readBody NewUser.read request)
      let user : NewUser := { presented with email := Text.trim presented.email }
      settle (checkCredentials user.email user.password)
      next user) =
      match presentedUser request with
      | .ok user => core.attempt (next user)
      | .error error => (.error error, core) := by
  rw [Core.attempt_bind, Core.attempt_settle, presentedUser]
  cases readBody NewUser.read request with
  | error error => rfl
  | ok presented =>
      dsimp only
      rw [Core.attempt_bind, Core.attempt_settle]
      cases checked : checkCredentials (Text.trim presented.email) presented.password with
      | error error => simp [checked, bind, Except.bind]
      | ok value => simp [checked, bind, Except.bind, pure, Except.pure]

/-- Nothing happens in the core once a login has succeeded or failed. -/
theorem attempt_login_bind_snd (manager : Manager) (credentials : Credentials)
    (event : Session → UserId → Event) (response : Session → UserId → Except AuthError Response)
    (core : Core) :
    (core.attempt (do
      let (session, id) ← manager.login credentials
      Action.log (event session id)
      settle (response session id))).2 = (core.attempt (manager.login credentials)).2 := by
  rw [Core.attempt_bind]
  rcases core.attempt (manager.login credentials) with ⟨error | ⟨session, id⟩, after⟩
  · rfl
  · rfl

theorem attempt_login_snd (manager : Manager) (request : Request) (core : Core) :
    (core.attempt (login manager request)).2 =
      match core.attempt (Gate.authenticate (Cookie.carrier? request.headers)),
          presentedCredentials request with
      | (.error _, core), .ok credentials => (core.attempt (manager.login credentials)).2
      | (_, core), _ => core := by
  rw [login, attempt_refuseLiveSession_bind_snd]
  rcases core.attempt (Gate.authenticate (Cookie.carrier? request.headers)) with
    ⟨error | identity, refused⟩
  · refine (congrArg Prod.snd (attempt_presentedCredentials (fun credentials => do
      let (session, id) ← manager.login credentials
      Action.logService .info "login" [("user_id", Decimal.text id.toInt)]
      settle (sessionResponse session id)) request refused)).trans ?_
    cases presentedCredentials request with
    | error error => rfl
    | ok credentials =>
        exact attempt_login_bind_snd manager credentials
          (fun _ id => .service .info "login" [("user_id", Decimal.text id.toInt)])
          sessionResponse refused
  · rfl

theorem attempt_register_snd (manager : Manager) (request : Request) (core : Core) :
    (core.attempt (register manager request)).2 =
      match core.attempt (Gate.authenticate (Cookie.carrier? request.headers)),
          presentedUser request with
      | (.error _, core), .ok user =>
          match core.attempt (manager.register user) with
          | (.ok _, core) => (core.attempt (manager.login user.credentials)).2
          | (.error _, core) => core
      | (_, core), _ => core := by
  rw [register, attempt_refuseLiveSession_bind_snd]
  rcases core.attempt (Gate.authenticate (Cookie.carrier? request.headers)) with
    ⟨error | identity, refused⟩
  · refine (congrArg Prod.snd (attempt_presentedUser (fun user => do
      let id ← manager.register user
      let (session, _) ← manager.login user.credentials
      Action.logService .info "registered" [("user_id", Decimal.text id.toInt)]
      settle (sessionResponse session id)) request refused)).trans ?_
    cases presentedUser request with
    | error error => rfl
    | ok user =>
        dsimp only
        rw [Core.attempt_bind]
        rcases refused.attempt (manager.register user) with ⟨error | id, registered⟩
        · rfl
        · exact attempt_login_bind_snd manager user.credentials
            (fun _ _ => .service .info "registered" [("user_id", Decimal.text id.toInt)])
            (fun session _ => sessionResponse session id) registered
  · rfl

theorem attempt_logout_snd (request : Request) (core : Core) :
    (core.attempt (logout request)).2 =
      match Cookie.carrier? request.headers with
      | none => core
      | some carrier =>
          match core.attempt (Gate.authenticate (some carrier)) with
          | (.ok _, core) => (core.attempt (Manager.logout carrier.token)).2
          | (.error _, core) => core := by
  rw [logout]
  cases Cookie.carrier? request.headers with
  | none => rfl
  | some carrier =>
      dsimp only
      rw [Core.attempt_bind]
      rcases core.attempt (Gate.authenticate (some carrier)) with ⟨error | identity, accepted⟩
      · rfl
      · dsimp only
        rw [Core.attempt_bind]
        rcases accepted.attempt (Manager.logout carrier.token) with ⟨error | value, after⟩
        · rfl
        · dsimp only
          rw [Core.attempt_bind, Core.attempt_logService]
          dsimp only
          rw [Core.attempt_bind, Core.attempt_readClock]
          dsimp only
          rw [Core.attempt_bind, Core.attempt_settle]
          cases Cookie.clear after.now <;> rfl

/-! ## The deeds lead to what a request leaves -/

variable {manager : Manager} {request : Request} {world : World}

private theorem leads_call (call : Call) {rest : List Deed} {finish : Core}
    (later : Leads (call.after world).core rest finish) :
    Leads world.core (⟨world, call⟩ :: rest) finish :=
  @Leads.cons ⟨world, call⟩ rest finish later

private theorem leads_gate {rest : List Deed} {finish : Core}
    (later : Leads (world.attempt (Gate.authenticate (Cookie.carrier? request.headers))).2.core
      rest finish) : Leads world.core (gateDeed request world :: rest) finish :=
  leads_call (.authenticate (Cookie.carrier? request.headers)) later

theorem leads_loginDeeds (manager : Manager) (request : Request) (world : World) :
    Leads world.core (loginDeeds manager request world)
      (world.core.attempt (login manager request)).2 := by
  rw [attempt_login_snd, World.attempt_core, loginDeeds]
  apply leads_gate
  cases (world.attempt (Gate.authenticate (Cookie.carrier? request.headers))).1 with
  | ok identity => exact .nil _
  | error error =>
      cases presentedCredentials request with
      | error error => exact .nil _
      | ok credentials =>
          dsimp only
          rw [World.attempt_core]
          exact leads_call (.login manager credentials) (.nil _)

theorem leads_registerDeeds (manager : Manager) (request : Request) (world : World) :
    Leads world.core (registerDeeds manager request world)
      (world.core.attempt (register manager request)).2 := by
  rw [attempt_register_snd, World.attempt_core, registerDeeds]
  apply leads_gate
  cases (world.attempt (Gate.authenticate (Cookie.carrier? request.headers))).1 with
  | ok identity => exact .nil _
  | error error =>
      cases presentedUser request with
      | error error => exact .nil _
      | ok user =>
          have asked : (gateDeed request world).after =
              (world.attempt (Gate.authenticate (Cookie.carrier? request.headers))).2 := rfl
          dsimp only
          rw [World.attempt_core, asked]
          generalize (world.attempt (Gate.authenticate (Cookie.carrier? request.headers))).2 =
            refused
          apply leads_call (.register manager user)
          cases (refused.attempt (manager.register user)).1 with
          | error error => exact .nil _
          | ok id =>
              dsimp only
              rw [World.attempt_core]
              exact leads_call (.login manager user.credentials) (.nil _)

theorem leads_logoutDeeds (manager : Manager) (request : Request) (world : World) :
    Leads world.core (logoutDeeds manager request world)
      (world.core.attempt (logout request)).2 := by
  rw [attempt_logout_snd, logoutDeeds]
  cases carried : Cookie.carrier? request.headers with
  | none => exact .nil _
  | some carrier =>
      dsimp only
      rw [World.attempt_core, ← carried]
      apply leads_gate
      cases (world.attempt (Gate.authenticate (Cookie.carrier? request.headers))).1 with
      | error error => exact .nil _
      | ok identity =>
          dsimp only
          rw [World.attempt_core]
          exact leads_call (.logout carrier.token) (.nil _)

theorem Route.IsQuiet.does {route : Route} (quiet : route.IsQuiet) : route.Does noDeeds := by
  intro manager request identity world
  rw [World.attempt_core, quiet]
  exact .nil _

/-- A handler that shows something of an identity, and asks no store, is quiet. -/
theorem isQuiet_of_ofIdentity {answer : Identity → Action Response}
    (quiet : ∀ identity core, (Core.attempt (answer identity) core).2 = core)
    (segments : List Segment) (method : RouteMethod) :
    (Router.gatedRoute segments method (.ofIdentity answer)).IsQuiet := by
  intro manager request identity world
  have same := World.attempt_core (Handler.ofIdentity answer manager request identity) world
  refine (Prod.mk.inj same).2.symm.trans ?_
  cases identity with
  | none => rfl
  | some identity => exact quiet identity world.core

theorem currentSession_isQuiet (identity : Identity) (core : Core) :
    (core.attempt (currentSession identity)).2 = core :=
  rfl

theorem moderation_isQuiet (identity : Identity) (core : Core) :
    (core.attempt (moderation identity)).2 = core := by
  obtain ⟨id, role⟩ := identity
  cases role <;> rfl

theorem does_of_mem_describedRoutes {more : List Route} (quiet : ∀ route ∈ more, route.IsQuiet)
    {route : Route} {doings : Doings} (member : (route, doings) ∈ describedRoutes more) :
    route.Does doings := by
  rcases List.mem_append.mp member with entry | gated
  · simp only [Router.entryPoints, List.zip_cons_cons, List.zip_nil_left, List.mem_cons,
      Prod.mk.injEq, List.not_mem_nil, or_false] at entry
    obtain ⟨rfl, rfl⟩ | ⟨rfl, rfl⟩ | ⟨rfl, rfl⟩ | ⟨rfl, rfl⟩ := entry
    · exact fun manager request _ => leads_loginDeeds manager request
    · exact fun manager request _ => leads_registerDeeds manager request
    · exact fun manager request _ => leads_logoutDeeds manager request
    · exact fun manager request _ world => .nil _
  · obtain ⟨behind, inside, same⟩ := List.mem_map.mp gated
    obtain ⟨rfl, rfl⟩ := Prod.mk.inj same
    apply Route.IsQuiet.does
    rcases List.mem_append.mp inside with standard | added
    · simp only [Router.standardGated, List.mem_cons, List.not_mem_nil, or_false] at standard
      obtain rfl | rfl := standard
      · exact isQuiet_of_ofIdentity currentSession_isQuiet _ _
      · exact isQuiet_of_ofIdentity moderation_isQuiet _ _
    · exact quiet behind added

theorem leads_dispatchDeeds {route : Route} {doings : Doings} (does : route.Does doings)
    (identity : Option Identity) :
    Leads world.core (dispatchDeeds route doings manager request world)
      (world.core.run (route.dispatch manager request identity)).2 := by
  rw [Core.run_dispatch, dispatchDeeds]
  cases route.method.admits request.method with
  | false => exact .nil _
  | true =>
      simp only [if_true, Core.run_respond_snd]
      exact does manager request identity world

theorem leads_routeDeeds {route : Route} {doings : Doings} (does : route.Does doings) :
    Leads world.core (routeDeeds route doings manager request world)
      (world.core.run (route.throughGate manager request)).2 := by
  rw [routeDeeds]
  cases gated : route.isGated with
  | false =>
      rw [Core.run_throughGate_of_not_isGated gated]
      exact leads_dispatchDeeds does none
  | true =>
      rw [Core.run_throughGate_of_isGated gated, World.attempt_core]
      apply leads_gate
      cases (world.attempt (Gate.authenticate (Cookie.carrier? request.headers))).1 with
      | error error =>
          simp only [Core.run_failure]
          exact .nil _
      | ok identity => exact leads_dispatchDeeds does (some identity)

/-- A request leaves what its deeds lead to. -/
theorem leads_requestDeeds {more : List Route} (quiet : ∀ route ∈ more, route.IsQuiet)
    (manager : Manager) (request : Request) (world : World) :
    Leads world.core (requestDeeds more manager request world)
      (world.run ((Router.withGated more).answer manager request)).2.core := by
  rw [World.core_run_snd, requestDeeds]
  have routes : (Router.withGated more).routes.find? (·.accepts request.path) =
      ((describedRoutes more).find? fun (route, _) => route.accepts request.path).map Prod.fst := by
    rw [← describedRoutes_fst, List.find?_map]
    rfl
  cases found : (describedRoutes more).find? fun (route, _) => route.accepts request.path with
  | none =>
      rw [found] at routes
      rw [Core.run_answer_of_find?_none routes]
      exact .nil _
  | some described =>
      obtain ⟨route, doings⟩ := described
      rw [found] at routes
      rw [Core.run_answer_of_find? routes, Core.run_routeAnswer]
      exact leads_routeDeeds (does_of_mem_describedRoutes quiet (List.mem_of_find?_eq_some found))

end SessionGate.Http
