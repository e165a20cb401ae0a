import SessionGate.Proofs.Http.Runs
import SessionGate.Proofs.Payload
import SessionGate.Proofs.Sessions.Operations

/-!
# Behind the gate

What stands behind the gate is reached with an identity that the stores vouch for, or not at all.
A handler outside of it that needs an identity refuses every caller.
-/

namespace SessionGate

open Time Http

/-- What the stores say about a caller: who the live entry of its token speaks for. No token is
unauthorized, an empty one invalid, and one without a live entry unknown; nobody's identity is
unauthorized, and a store that fails or an entry that cannot be read is a fault of the server. -/
def World.verdict (world : World) : Option Carrier → Except AuthError Identity
  | none => .error .unauthorized
  | some carrier =>
      if carrier.token.isEmpty then .error .invalidToken
      else match world.sessionStore with
        | .failing report => .error (.internal (.reported report))
        | .forgetful => .error .unauthorized
        | .sound =>
            match world.sessions.live? world.now carrier.token with
            | none => .error .notFound
            | some entry =>
                match Identity.decode entry.value with
                | .error error => .error (.internal (.undecodableEntry error))
                | .ok identity =>
                    if identity.userId = 0 then .error .unauthorized else .ok identity

namespace Http

/-- A service with more routes behind its gate. -/
def Router.guarding (extras : List (List Segment × RouteMethod × Handler)) : Router :=
  .withGated (extras.map fun (segments, method, handler) =>
    Router.gatedRoute segments method handler)

/-- The routes behind the gate of a service with more of them. -/
def guardedRoutes (extras : List (List Segment × RouteMethod × Handler)) : List Route :=
  Router.standardGated ++
    extras.map fun (segments, method, handler) => Router.gatedRoute segments method handler

/-- A cookie does not say when it ends. -/
theorem expires_of_carrier? {headers : List Header} {carrier : Carrier}
    (carried : Cookie.carrier? headers = some carrier) : carrier.expires = none := by
  obtain ⟨token, -, rfl⟩ := Option.map_eq_some_iff.mp carried
  rfl

/-- The sessions after a caller's token has been looked up: those before, or all but an expired
entry of the token. -/
def SessionsAsked (world : World) (caller : Option Carrier) (sessions : ExpiringMap) : Prop :=
  sessions = world.sessions ∨
    ∃ carrier entry, caller = some carrier ∧ world.sessions.find? carrier.token = some entry ∧
      entry.isExpired world.now = true ∧ sessions = world.sessions.erase carrier.token

variable {world : World} {headers : List Header}

private theorem attempt_authenticate_of_token {carrier : Carrier} (endless : carrier.expires = none)
    (notBlank : carrier.token.isEmpty = false) (core : Core) :
    core.attempt (Gate.authenticate (some carrier)) =
      match core.lookUp carrier.token with
      | (.error error, core) => (.error error, core)
      | (.ok identity, core) =>
          (if identity.userId = 0 then .error .unauthorized else .ok identity, core) := by
  rw [Core.attempt_authenticate, Core.attempt_resolve, Carrier.hasEnded, endless, notBlank]
  rfl

private theorem attempt_authenticate_of_blank {carrier : Carrier} (endless : carrier.expires = none)
    (blank : carrier.token.isEmpty = true) (core : Core) :
    core.attempt (Gate.authenticate (some carrier)) = (.error .invalidToken, core) := by
  rw [Core.attempt_authenticate, Core.attempt_resolve, Carrier.hasEnded, endless, blank]
  rfl

/-- The gate's answer is the verdict of the stores. -/
theorem authenticate_fst (world : World) (headers : List Header) :
    (world.core.attempt (Gate.authenticate (Cookie.carrier? headers))).1 =
      world.verdict (Cookie.carrier? headers) := by
  cases carried : Cookie.carrier? headers with
  | none => rfl
  | some carrier =>
      have endless := expires_of_carrier? carried
      cases blank : carrier.token.isEmpty with
      | true => rw [attempt_authenticate_of_blank endless blank, World.verdict, if_pos blank]
      | false =>
          rw [attempt_authenticate_of_token endless blank, World.verdict, blank, Core.lookUp]
          obtain ⟨now, users, sessions, random, userStore, sessionStore, journal⟩ := world
          cases sessionStore with
          | failing report => rfl
          | forgetful => rfl
          | sound =>
              simp only [World.core, ExpiringMap.get_fst, Bool.false_eq_true, if_false]
              cases sessions.live? now carrier.token with
              | none => rfl
              | some entry =>
                  simp only [Option.map_some, Core.identityOf]
                  cases Identity.decode entry.value <;> rfl

/-- Asking the gate removes an expired entry of the caller's token at most. -/
theorem authenticate_snd (world : World) (headers : List Header) :
    ∃ sessions, SessionsAsked world (Cookie.carrier? headers) sessions ∧
      (world.core.attempt (Gate.authenticate (Cookie.carrier? headers))).2 =
        { world.core with sessions } := by
  cases carried : Cookie.carrier? headers with
  | none => exact ⟨world.sessions, .inl rfl, rfl⟩
  | some carrier =>
      have endless := expires_of_carrier? carried
      cases blank : carrier.token.isEmpty with
      | true =>
          rw [attempt_authenticate_of_blank endless blank]
          exact ⟨world.sessions, .inl rfl, rfl⟩
      | false =>
          rw [attempt_authenticate_of_token endless blank, Core.lookUp]
          obtain ⟨now, users, sessions, random, userStore, sessionStore, journal⟩ := world
          cases sessionStore with
          | failing report => exact ⟨sessions, .inl rfl, rfl⟩
          | forgetful => exact ⟨sessions, .inl rfl, rfl⟩
          | sound =>
              refine ⟨(sessions.get now carrier.token).2, ?_, ?_⟩
              · rcases sessions.get_snd now carrier.token with
                  same | ⟨entry, found, expired, erased⟩
                · exact .inl same
                · exact .inr ⟨carrier, entry, rfl, found, expired, erased⟩
              · simp only [World.core]
                cases Core.identityOf (sessions.get now carrier.token).1 <;> rfl

/-- The gate accepts a caller without a change to anything. -/
theorem authenticate_snd_of_ok {identity : Identity}
    (accepted : world.verdict (Cookie.carrier? headers) = .ok identity) :
    (world.core.attempt (Gate.authenticate (Cookie.carrier? headers))).2 = world.core := by
  cases carried : Cookie.carrier? headers with
  | none => rfl
  | some carrier =>
      have endless := expires_of_carrier? carried
      rw [carried, World.verdict] at accepted
      cases blank : carrier.token.isEmpty with
      | true => rw [attempt_authenticate_of_blank endless blank]
      | false =>
          rw [attempt_authenticate_of_token endless blank, Core.lookUp]
          obtain ⟨now, users, sessions, random, userStore, sessionStore, journal⟩ := world
          cases sessionStore with
          | failing report => rfl
          | forgetful => rfl
          | sound =>
              simp only [blank, Bool.false_eq_true, if_false] at accepted
              cases live : sessions.live? now carrier.token with
              | none => simp [live] at accepted
              | some entry =>
                  simp only [World.core, ExpiringMap.get_snd_of_live? live]
                  cases Core.identityOf (sessions.get now carrier.token).1 <;> rfl

/-! ## Which routes are guarded -/

theorem accepts_gatedRoute {segments : List Segment} {method : RouteMethod} {handler : Handler}
    {path : String} (accepted : (Router.gatedRoute segments method handler).accepts path = true) :
    ∃ first second rest, path.toList.splitOn '/' = [] :: first :: second :: rest := by
  unfold Route.accepts at accepted
  split at accepted
  · rename_i parts split
    match parts with
    | [] => simp [Router.gatedRoute, segmentsAccept] at accepted
    | [first] => simp [Router.gatedRoute, segmentsAccept] at accepted
    | first :: second :: rest => exact ⟨first, second, rest, split⟩
  · cases accepted

theorem mem_guardedRoutes {extras : List (List Segment × RouteMethod × Handler)} {route : Route}
    (member : route ∈ guardedRoutes extras) :
    ∃ segments method handler, route = Router.gatedRoute segments method handler := by
  rcases List.mem_append.mp member with standard | extra
  · simp only [Router.standardGated, List.mem_cons, List.not_mem_nil, or_false] at standard
    obtain rfl | rfl := standard
    · exact ⟨_, _, _, rfl⟩
    · exact ⟨_, _, _, rfl⟩
  · obtain ⟨⟨segments, method, handler⟩, -, rfl⟩ := List.mem_map.mp extra
    exact ⟨segments, method, handler, rfl⟩

/-- No entry point stands before a guarded route. -/
theorem find?_guarding {extras : List (List Segment × RouteMethod × Handler)} {path : String}
    {route : Route} (found : (guardedRoutes extras).find? (·.accepts path) = some route) :
    (Router.guarding extras).routes.find? (·.accepts path) = some route := by
  obtain ⟨segments, method, handler, rfl⟩ := mem_guardedRoutes (List.mem_of_find?_eq_some found)
  have accepted := List.find?_some found
  obtain ⟨first, second, rest, split⟩ := accepts_gatedRoute accepted
  have passed : Router.entryPoints.find? (·.accepts path) = none := by
    rw [List.find?_eq_none]
    intro entry member
    simp only [Router.entryPoints, List.mem_cons, List.not_mem_nil, or_false] at member
    obtain rfl | rfl | rfl | rfl := member <;> simp [Route.accepts, split, segmentsAccept]
  change (Router.entryPoints ++ Router.standardGated ++ _).find? _ = _
  rw [List.append_assoc, List.find?_append, passed]
  exact found

/-! ## Answers from behind the gate -/

variable {manager : Manager} {request : Request} {route : Route}

/-- A caller that the gate refuses is told why. -/
theorem run_answer_of_refused (gated : route.isGated = true) {error : AuthError}
    (refused : world.verdict (Cookie.carrier? request.headers) = .error error) :
    world.core.run (route.answer manager request) =
      (route.complete request (failureResponse error),
        (world.core.attempt (Gate.authenticate (Cookie.carrier? request.headers))).2) := by
  have answer := authenticate_fst world request.headers
  rw [refused] at answer
  rw [Core.run_routeAnswer, Core.run_throughGate_of_isGated gated]
  rcases asked : world.core.attempt (Gate.authenticate (Cookie.carrier? request.headers)) with
    ⟨outcome, after⟩
  rw [asked] at answer
  obtain rfl : outcome = .error error := answer
  simp only [Core.run_failure]

/-- A caller that the gate accepts is answered by the handler, with the identity found. -/
theorem run_answer_of_accepted (gated : route.isGated = true) {identity : Identity}
    (accepted : world.verdict (Cookie.carrier? request.headers) = .ok identity) :
    world.core.run (route.answer manager request) =
      (route.complete request
          (world.core.run (route.dispatch manager request (some identity))).1,
        (world.core.run (route.dispatch manager request (some identity))).2) := by
  have answer := authenticate_fst world request.headers
  have same := authenticate_snd_of_ok accepted
  rw [accepted] at answer
  rw [Core.run_routeAnswer, Core.run_throughGate_of_isGated gated]
  rcases asked : world.core.attempt (Gate.authenticate (Cookie.carrier? request.headers)) with
    ⟨outcome, after⟩
  rw [asked] at answer same
  obtain rfl : outcome = .ok identity := answer
  obtain rfl : after = world.core := same
  rfl

/-- The handler takes no part in the answer to a caller that the gate refuses. -/
theorem run_answer_eq_of_refused (gated : route.isGated = true) {error : AuthError}
    (refused : world.verdict (Cookie.carrier? request.headers) = .error error) (handler : Handler) :
    world.run ({ route with handler }.answer manager request) =
      world.run (route.answer manager request) := by
  have answer : (world.run (Gate.authenticate (Cookie.carrier? request.headers)).run).1 =
      .error error := by
    rw [World.run_fst]
    exact (authenticate_fst world request.headers).trans refused
  have ends : ∀ other : Handler,
      world.run ({ route with handler := other }.throughGate manager request) =
      (world.run (Gate.authenticate (Cookie.carrier? request.headers)).run).2.run
        (Http.failure error) := by
    intro other
    rw [Route.throughGate]
    simp only [gated, if_true]
    rw [World.run, Program.run_bind]
    rw [World.run] at answer
    rw [answer]
    rfl
  have whole : ∀ other : Handler,
      world.run ({ route with handler := other }.answer manager request) =
      (world.run ({ route with handler := other }.throughGate manager request) |>.map
        (route.complete request) id) := by
    intro other
    rw [Route.answer, World.run, Program.run_bind]
    rfl
  have unchanged := whole route.handler
  rw [ends] at unchanged
  rw [whole, ends]
  exact unchanged.symm

/-- A handler outside of the gate that needs an identity is given none. -/
theorem run_answer_of_ofIdentity (ungated : route.isGated = false)
    {answer : Identity → Action Response} (needs : route.handler = .ofIdentity answer)
    (admitted : route.method.admits request.method = true) (core : Core) :
    core.run (route.answer manager request) =
      (route.complete request (failureResponse .unauthorized), core) := by
  rw [Core.run_routeAnswer, Core.run_throughGate_of_not_isGated ungated, Core.run_dispatch,
    admitted, needs]
  rfl

theorem complete_of_get (get : route.method = .get) (method : request.method = "GET")
    (response : Response) : route.complete request response = response := by
  simp [Route.complete, RouteMethod.admits, get, method]

/-- The route of a service that answers a guarded path answers in the world as on its own. -/
theorem run_guarding_answer {extras : List (List Segment × RouteMethod × Handler)}
    (found : (guardedRoutes extras).find? (·.accepts request.path) = some route) :
    (world.run ((Router.guarding extras).answer manager request)).1 =
        (world.core.run (route.answer manager request)).1 ∧
      (world.run ((Router.guarding extras).answer manager request)).2.core =
        (world.core.run (route.answer manager request)).2 := by
  rw [World.run_fst, World.core_run_snd, Core.run_answer_of_find? (find?_guarding found)]
  exact ⟨rfl, rfl⟩

theorem isGated_of_guarded {extras : List (List Segment × RouteMethod × Handler)}
    (found : (guardedRoutes extras).find? (·.accepts request.path) = some route) :
    route.isGated = true := by
  obtain ⟨segments, method, handler, rfl⟩ := mem_guardedRoutes (List.mem_of_find?_eq_some found)
  rfl

/-- A guarded route that answers reading requests shows the identity found. -/
theorem run_guarding_answer_of_get {extras : List (List Segment × RouteMethod × Handler)}
    (found : (guardedRoutes extras).find? (·.accepts request.path) = some route)
    (get : route.method = .get) (method : request.method = "GET")
    {answer : Identity → Action Response} (shows : route.handler = .ofIdentity answer)
    {identity : Identity}
    (accepted : world.verdict (Cookie.carrier? request.headers) = .ok identity) :
    (world.run ((Router.guarding extras).answer manager request)).1 =
      (world.core.run (respond (answer identity))).1 := by
  have admitted : route.method.admits request.method = true := by
    rw [get, method]
    rfl
  rw [(run_guarding_answer found).1, run_answer_of_accepted (isGated_of_guarded found) accepted,
    complete_of_get get method, Core.run_dispatch, admitted, if_pos rfl, shows]
  rfl

theorem find?_session {extras : List (List Segment × RouteMethod × Handler)} :
    (guardedRoutes extras).find? (·.accepts "/api/v1/session") =
      some (Router.gatedRoute [.literal "session"] .get (.ofIdentity currentSession)) := by
  have accepted : (Router.gatedRoute [.literal "session"] .get
      (.ofIdentity currentSession)).accepts "/api/v1/session" = true := by decide
  simp [guardedRoutes, Router.standardGated, accepted]

theorem find?_moderation {extras : List (List Segment × RouteMethod × Handler)} :
    (guardedRoutes extras).find? (·.accepts "/api/v1/moderation") =
      some (Router.gatedRoute [.literal "moderation"] .get (.ofIdentity moderation)) := by
  have passed : (Router.gatedRoute [.literal "session"] .get
      (.ofIdentity currentSession)).accepts "/api/v1/moderation" = false := by decide
  have accepted : (Router.gatedRoute [.literal "moderation"] .get
      (.ofIdentity moderation)).accepts "/api/v1/moderation" = true := by decide
  simp [guardedRoutes, Router.standardGated, passed, accepted]

/-- Behind the gate, whatever the method: a caller without a live session is told what the stores
say, and leaves no trace but the removal of an expired entry of its own token; the handler takes no
part. A caller with one is answered by the handler, which is given the identity found. Outside of
the gate a handler that needs an identity refuses every caller. -/
theorem gate_guards (extras : List (List Segment × RouteMethod × Handler)) (manager : Manager)
    (request : Request) (world : World) :
    (∀ route, (guardedRoutes extras).find? (·.accepts request.path) = some route →
      ∀ error, world.verdict (Cookie.carrier? request.headers) = .error error →
        (world.run ((Router.guarding extras).answer manager request)).1 =
            route.complete request (failureResponse error) ∧
          (world.run ((Router.guarding extras).answer manager request)).2.users = world.users ∧
          SessionsAsked world (Cookie.carrier? request.headers)
            (world.run ((Router.guarding extras).answer manager request)).2.sessions ∧
          ∀ handler, world.run ({ route with handler }.answer manager request) =
            world.run (route.answer manager request)) ∧
    (∀ identity, world.verdict (Cookie.carrier? request.headers) = .ok identity →
      (∀ route, (guardedRoutes extras).find? (·.accepts request.path) = some route →
        route.method.admits request.method = true →
          (world.run ((Router.guarding extras).answer manager request)).1 =
              route.complete request
                (world.run (respond (route.handler manager request (some identity)))).1 ∧
            (world.run ((Router.guarding extras).answer manager request)).2.core =
              (world.run (respond (route.handler manager request (some identity)))).2.core) ∧
      (request.method = "GET" →
        (request.path = "/api/v1/session" →
          (world.run ((Router.guarding extras).answer manager request)).1 =
            .ofJson 200 (Json.writeObject [("body", Json.writeObject
              [("id", Decimal.ofInt identity.userId.toInt), ("role", identity.role.write)])])) ∧
        (request.path = "/api/v1/moderation" →
          (world.run ((Router.guarding extras).answer manager request)).1 =
            if identity.role = .moderator then .ofStatus 204 else failureResponse .forbidden) ∧
        ∀ (route : Route) (shown : Identity → Response),
          (guardedRoutes extras).find? (·.accepts request.path) = some route →
          route.method = .get → route.handler = .ofIdentity (fun identity => return shown identity) →
            (world.run ((Router.guarding extras).answer manager request)).1 = shown identity)) ∧
    ∀ router : Router, ∀ route answer,
      router.routes.find? (·.accepts request.path) = some route → route.isGated = false →
        route.handler = .ofIdentity answer → route.method.admits request.method = true →
          (world.run (router.answer manager request)).1 =
              route.complete request (failureResponse .unauthorized) ∧
            (world.run (router.answer manager request)).2.core = world.core := by
  refine ⟨fun route found error refused => ?_, fun identity accepted => ⟨?_, fun method => ?_⟩, ?_⟩
  · obtain ⟨response, left⟩ := @run_guarding_answer world manager request route extras found
    have gated := isGated_of_guarded found
    rw [run_answer_of_refused gated refused] at response left
    obtain ⟨sessions, asked, after⟩ := authenticate_snd world request.headers
    rw [after] at left
    refine ⟨response, congrArg Core.users left, ?_, run_answer_eq_of_refused gated refused⟩
    have same : (world.run ((Router.guarding extras).answer manager request)).2.sessions =
        sessions := congrArg Core.sessions left
    rwa [same]
  · intro route found admitted
    obtain ⟨response, left⟩ := @run_guarding_answer world manager request route extras found
    rw [run_answer_of_accepted (isGated_of_guarded found) accepted, Core.run_dispatch, admitted,
      if_pos rfl] at response left
    rw [World.run_fst (respond _), World.core_run_snd (respond _)]
    exact ⟨response, left⟩
  · refine ⟨fun path => ?_, fun path => ?_, fun route shown found get shows => ?_⟩
    · have found : (guardedRoutes extras).find? (·.accepts request.path) = _ :=
        path ▸ find?_session
      exact run_guarding_answer_of_get found rfl method rfl accepted
    · have found : (guardedRoutes extras).find? (·.accepts request.path) = _ :=
        path ▸ find?_moderation
      rw [run_guarding_answer_of_get found rfl method rfl accepted]
      obtain ⟨id, role⟩ := identity
      cases role <;> rfl
    · rw [run_guarding_answer_of_get found get method shows accepted]
      rfl
  · intro router route answer found ungated needs admitted
    rw [World.run_fst, World.core_run_snd, Core.run_answer_of_find? found,
      run_answer_of_ofIdentity ungated needs admitted]
    exact ⟨rfl, rfl⟩

/-- A moderator with a live session passes the gate and the check of the role. -/
theorem moderator_passes_gate :
    (World.run ((Router.guarding []).answer .cheap
        ⟨"GET", "/api/v1/moderation", [⟨"Cookie", Octets.ofText "session_token=t"⟩], []⟩)
      { World.start .epoch (fun _ => .replicate 8 0) (fun _ => .replicate 32 0) with
        sessions := .insert .empty "t" ⟨Identity.encode ⟨1, .moderator⟩, none⟩ }).1 =
      .ofStatus 204 := by
  have carried : Cookie.carrier? [⟨"Cookie", Octets.ofText "session_token=t"⟩] =
      some ⟨"t", none⟩ := by
    decide +kernel
  have accepted : World.verdict
      { World.start .epoch (fun _ => .replicate 8 0) (fun _ => .replicate 32 0) with
        sessions := .insert .empty "t" ⟨Identity.encode ⟨1, .moderator⟩, none⟩ }
      (some ⟨"t", none⟩) = .ok ⟨1, .moderator⟩ := by
    have live (now : Instant) : (ExpiringMap.insert .empty "t"
        ⟨Identity.encode ⟨1, .moderator⟩, none⟩).live? now "t" =
          some ⟨Identity.encode ⟨1, .moderator⟩, none⟩ := rfl
    simp only [World.verdict, World.start, live, Identity.decode_encode]
    rfl
  rw [← carried] at accepted
  exact (((gate_guards [] .cheap ⟨"GET", "/api/v1/moderation",
    [⟨"Cookie", Octets.ofText "session_token=t"⟩], []⟩ _).2.1 _ accepted).2 rfl).2.1 rfl

end Http

end SessionGate
