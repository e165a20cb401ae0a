import SessionGate.Proofs.Http.Conversations

/-!
# How a service converses

Which conversation a request to a service leads to depends on its method and path. Posted requests
for login, registration and logout go their own courses. All others ask the gate at most, and
nothing is handed out or taken back.
-/

namespace SessionGate.Http

variable {manager : Manager} {request : Request} {turns : List Turn}

/-! ## Routes -/

variable {route : Route} {response : Response}

theorem converses_dispatch {identity : Option Identity}
    (converses : (route.dispatch manager request identity).Converses turns response) :
    (route.method.admits request.method = true ∧ ∃ result,
        (route.handler manager request identity).Converses turns result ∧
        response = responseOf result) ∨
      route.method.admits request.method = false ∧ turns = [] ∧ response = .ofStatus 405 := by
  rw [Route.dispatch] at converses
  cases admits : route.method.admits request.method with
  | true =>
      rw [admits, if_pos rfl] at converses
      exact .inl ⟨rfl, converses_respond converses⟩
  | false =>
      rw [admits, if_neg Bool.false_ne_true] at converses
      exact .inr ⟨rfl, Program.converses_done_iff.mp converses⟩

/-- A gated route refuses a caller for the gate, or answers for the identity found. -/
theorem converses_throughGate_of_isGated (gated : route.isGated = true)
    (converses : (route.throughGate manager request).Converses turns response) :
    (∃ error, Gate.Asks (Cookie.carrier? request.headers) turns (.error error) ∧
        response = failureResponse error) ∨
      ∃ gate rest identity, turns = gate ++ rest ∧
        Gate.Asks (Cookie.carrier? request.headers) gate (.ok identity) ∧
        (route.dispatch manager request (some identity)).Converses rest response := by
  rw [Route.throughGate, gated, if_pos rfl] at converses
  obtain ⟨gate, rest, known, rfl, asked, behind⟩ := Program.converses_bind_iff.mp converses
  have asks := Gate.converses_authenticate asked
  cases known with
  | error error =>
      obtain ⟨rfl, rfl⟩ := converses_failure behind
      exact .inl ⟨error, (List.append_nil gate).symm ▸ asks, rfl⟩
  | ok identity => exact .inr ⟨gate, rest, identity, rfl, asks, behind⟩

theorem converses_finish {isLogged : Bool} {finished : Response}
    (converses : (Router.finish isLogged request finished).Converses turns response) :
    turns = [] ∧ response = finished := by
  cases isLogged with
  | false => exact Program.converses_done_iff.mp converses
  | true =>
      obtain ⟨_, _, _, rfl, logged, ended⟩ := Program.converses_bind_iff.mp converses
      obtain rfl := Program.converses_query_log_iff.mp logged
      exact Program.converses_done_iff.mp ended

theorem converses_answer_of_find? {router : Router}
    (found : router.routes.find? (·.accepts request.path) = some route)
    (converses : (router.answer manager request).Converses turns response) :
    ∃ inner, (route.throughGate manager request).Converses turns inner ∧
      response = route.complete request inner := by
  rw [Router.answer, found] at converses
  obtain ⟨first, _, answered, rfl, before, finished⟩ := Program.converses_bind_iff.mp converses
  obtain ⟨rfl, rfl⟩ := converses_finish finished
  obtain ⟨inside, _, inner, rfl, within, ended⟩ := Program.converses_bind_iff.mp before
  obtain ⟨rfl, rfl⟩ := Program.converses_done_iff.mp ended
  exact ⟨inner, by simpa using within, rfl⟩

theorem converses_answer_of_find?_none {router : Router}
    (missing : router.routes.find? (·.accepts request.path) = none)
    (converses : (router.answer manager request).Converses turns response) :
    turns = [] ∧ response = .ofStatus 404 := by
  rw [Router.answer, missing] at converses
  exact converses_finish converses

/-- A posted request to an entry point is answered by its handler, and to no other method. -/
theorem converses_answer_of_entry {router : Router} (ungated : route.isGated = false)
    (method : route.method = .post)
    (found : router.routes.find? (·.accepts request.path) = some route)
    (converses : (router.answer manager request).Converses turns response) :
    (request.method = "POST" ∧ ∃ result,
        (route.handler manager request none).Converses turns result ∧
        response = responseOf result) ∨
      request.method ≠ "POST" ∧ turns = [] ∧ response.setCookie = none := by
  obtain ⟨inner, through, rfl⟩ := converses_answer_of_find? found converses
  rw [Route.throughGate, ungated, if_neg Bool.false_ne_true] at through
  rcases converses_dispatch through with ⟨admits, result, handled, rfl⟩ | ⟨refused, rfl, rfl⟩
  · have posted : request.method = "POST" := by
      rw [method] at admits
      simpa [RouteMethod.admits] using admits
    refine .inl ⟨posted, result, handled, ?_⟩
    rw [Route.complete, admits, posted]
    rfl
  · have other : request.method ≠ "POST" := by
      rw [method] at refused
      simpa [RouteMethod.admits] using refused
    exact .inr ⟨other, rfl, complete_setCookie route request _⟩

/-! ## Paths -/

/-- A path that a route with a single fixed segment answers is a slash and that segment. -/
theorem path_of_accepts {text place path : String} (segments : route.segments = [.literal text])
    (whole : "/" ++ text = place) (accepted : route.accepts path = true) : path = place := by
  unfold Route.accepts at accepted
  split at accepted
  · rename_i parts split
    rw [segments] at accepted
    obtain rfl : parts = [text.toList] := by
      match parts with
      | [] => cases accepted
      | [part] => simpa [segmentsAccept, Segment.accepts] using accepted
      | _ :: _ :: _ => simp [segmentsAccept] at accepted
    have joined : ['/'].intercalate (path.toList.splitOn '/') = path.toList :=
      List.intercalate_splitOn '/'
    rw [split] at joined
    apply String.toList_inj.mp
    rw [← joined, ← whole]
    simp [List.intercalate]
  · cases accepted

theorem find?_login (more : List Route) :
    (Router.withGated more).routes.find? (·.accepts "/login") =
      some ⟨[.literal "login"], .post, .ofAnyone login, false, true⟩ :=
  rfl

theorem find?_register (more : List Route) :
    (Router.withGated more).routes.find? (·.accepts "/register") =
      some ⟨[.literal "register"], .post, .ofAnyone register, false, true⟩ :=
  rfl

theorem find?_logout (more : List Route) :
    (Router.withGated more).routes.find? (·.accepts "/logout") =
      some ⟨[.literal "logout"], .post, .ofAnyone fun _ request => logout request, false, true⟩ :=
  rfl

/-! ## Courses -/

/-- The request is posted to the path. -/
def Request.Posts (request : Request) (path : String) : Prop :=
  request.method = "POST" ∧ request.path = path

/-- The request is posted to an entry point that hands a session out or takes one back. -/
def Request.IsOnSessions (request : Request) : Prop :=
  request.Posts "/login" ∨ request.Posts "/register" ∨ request.Posts "/logout"

/-- How a request to a service goes. -/
inductive AnswerCourse (manager : Manager) (request : Request) : List Turn → Response → Prop where
  | login {turns : List Turn} {result : Except AuthError Response} (posts : request.Posts "/login")
      (course : LoginCourse manager request turns result) :
      AnswerCourse manager request turns (responseOf result)
  | register {turns : List Turn} {result : Except AuthError Response}
      (posts : request.Posts "/register") (course : RegisterCourse manager request turns result) :
      AnswerCourse manager request turns (responseOf result)
  | logout {turns : List Turn} {result : Except AuthError Response}
      (posts : request.Posts "/logout") (course : LogoutCourse request turns result) :
      AnswerCourse manager request turns (responseOf result)
  | other {turns : List Turn} {response : Response} (elsewhere : ¬ request.IsOnSessions)
      (asks : turns = [] ∨ ∃ known, Gate.Asks (Cookie.carrier? request.headers) turns known)
      (plain : response.setCookie = none) : AnswerCourse manager request turns response

theorem converses_currentSession {identity : Identity} {result : Except AuthError Response}
    (converses : (currentSession identity).Converses turns result) :
    turns = [] ∧ (responseOf result).setCookie = none := by
  obtain ⟨rfl, rfl⟩ := Action.converses_pure_iff.mp converses
  exact ⟨rfl, rfl⟩

theorem converses_moderation {identity : Identity} {result : Except AuthError Response}
    (converses : (moderation identity).Converses turns result) :
    turns = [] ∧ (responseOf result).setCookie = none := by
  rw [moderation, Gate.requireRole] at converses
  cases satisfied : identity.role.satisfies .moderator with
  | true =>
      rw [satisfied, Bool.not_true, if_neg Bool.false_ne_true] at converses
      obtain ⟨rfl, rfl⟩ := Action.converses_pure_iff.mp converses
      exact ⟨rfl, rfl⟩
  | false =>
      rw [satisfied, Bool.not_false, if_pos rfl] at converses
      rcases Action.converses_bind_iff.mp converses with ⟨error, refused, rfl⟩ |
        ⟨_, _, _, rfl, refused, -⟩
      · rw [Action.converses_logService_bind_iff, Action.converses_throw_iff] at refused
        exact ⟨refused.1, rfl⟩
      · rw [Action.converses_logService_bind_iff, Action.converses_throw_iff] at refused
        cases refused.2

/-- A gated route whose handler asks nothing and hands nothing out asks the gate only. -/
theorem asks_of_gated {identityHandler : Identity → Action Response} {segments : List Segment}
    {inner : Response}
    (quiet : ∀ identity turns result, (identityHandler identity).Converses turns result →
      turns = [] ∧ (responseOf result).setCookie = none)
    (through : ((Router.gatedRoute segments .get (.ofIdentity identityHandler)).throughGate manager
      request).Converses turns inner) :
    (∃ known, Gate.Asks (Cookie.carrier? request.headers) turns known) ∧
      inner.setCookie = none := by
  rcases converses_throughGate_of_isGated rfl through with ⟨error, asks, rfl⟩ |
    ⟨gate, rest, identity, rfl, asks, dispatched⟩
  · exact ⟨⟨_, asks⟩, rfl⟩
  · rcases converses_dispatch dispatched with ⟨-, result, handled, rfl⟩ | ⟨-, rfl, rfl⟩
    · obtain ⟨rfl, plain⟩ := quiet identity _ _ handled
      exact ⟨⟨_, (List.append_nil gate).symm ▸ asks⟩, plain⟩
    · exact ⟨⟨_, (List.append_nil gate).symm ▸ asks⟩, rfl⟩

theorem not_isOnSessions_of_method (other : request.method ≠ "POST") :
    ¬ request.IsOnSessions := by
  rintro (⟨posted, -⟩ | ⟨posted, -⟩ | ⟨posted, -⟩) <;> exact other posted

/-- No route behind the gate answers what is posted to an entry point. -/
theorem not_isOnSessions_of_isGated
    (found : Router.standard.routes.find? (·.accepts request.path) = some route)
    (gated : route.isGated = true) : ¬ request.IsOnSessions := by
  rintro (⟨-, path⟩ | ⟨-, path⟩ | ⟨-, path⟩)
  · rw [path, Router.standard, find?_login] at found
    cases found
    cases gated
  · rw [path, Router.standard, find?_register] at found
    cases found
    cases gated
  · rw [path, Router.standard, find?_logout] at found
    cases found
    cases gated

theorem not_isOnSessions_of_find?_none
    (missing : Router.standard.routes.find? (·.accepts request.path) = none) :
    ¬ request.IsOnSessions := by
  rintro (⟨-, path⟩ | ⟨-, path⟩ | ⟨-, path⟩)
  · rw [path, Router.standard, find?_login] at missing
    cases missing
  · rw [path, Router.standard, find?_register] at missing
    cases missing
  · rw [path, Router.standard, find?_logout] at missing
    cases missing

theorem converses_answer
    (converses : (Router.standard.answer manager request).Converses turns response) :
    AnswerCourse manager request turns response := by
  cases found : Router.standard.routes.find? (·.accepts request.path) with
  | none =>
      obtain ⟨rfl, rfl⟩ := converses_answer_of_find?_none found converses
      exact .other (not_isOnSessions_of_find?_none found) (.inl rfl) rfl
  | some route =>
      have accepted := List.find?_some found
      have member := List.mem_of_find?_eq_some found
      simp only [Router.standard, Router.withGated, Router.entryPoints, Router.standardGated,
        List.append_nil, List.cons_append, List.nil_append, List.mem_cons, List.not_mem_nil,
        or_false] at member
      rcases member with rfl | rfl | rfl | rfl | rfl | rfl
      · rcases converses_answer_of_entry rfl rfl found converses with
          ⟨posted, result, handled, rfl⟩ | ⟨other, rfl, plain⟩
        · exact .login ⟨posted, path_of_accepts rfl (by decide) accepted⟩ (converses_login handled)
        · exact .other (not_isOnSessions_of_method other) (.inl rfl) plain
      · rcases converses_answer_of_entry rfl rfl found converses with
          ⟨posted, result, handled, rfl⟩ | ⟨other, rfl, plain⟩
        · exact .register ⟨posted, path_of_accepts rfl (by decide) accepted⟩
            (converses_register handled)
        · exact .other (not_isOnSessions_of_method other) (.inl rfl) plain
      · rcases converses_answer_of_entry rfl rfl found converses with
          ⟨posted, result, handled, rfl⟩ | ⟨other, rfl, plain⟩
        · exact .logout ⟨posted, path_of_accepts rfl (by decide) accepted⟩
            (converses_logout handled)
        · exact .other (not_isOnSessions_of_method other) (.inl rfl) plain
      · have path : request.path = "/check" := path_of_accepts rfl (by decide) accepted
        have elsewhere : ¬ request.IsOnSessions := by
          simp [Request.IsOnSessions, Request.Posts, path]
        rcases converses_answer_of_entry rfl rfl found converses with
          ⟨posted, result, handled, rfl⟩ | ⟨other, rfl, plain⟩
        · obtain ⟨rfl, rfl⟩ := Action.converses_pure_iff.mp handled
          exact .other elsewhere (.inl rfl) rfl
        · exact .other elsewhere (.inl rfl) plain
      · obtain ⟨inner, through, rfl⟩ := converses_answer_of_find? found converses
        obtain ⟨asks, plain⟩ := asks_of_gated (fun _ _ _ => converses_currentSession) through
        exact .other (not_isOnSessions_of_isGated found rfl) (.inr asks)
          ((complete_setCookie _ _ _).trans plain)
      · obtain ⟨inner, through, rfl⟩ := converses_answer_of_find? found converses
        obtain ⟨asks, plain⟩ := asks_of_gated (fun _ _ _ => converses_moderation) through
        exact .other (not_isOnSessions_of_isGated found rfl) (.inr asks)
          ((complete_setCookie _ _ _).trans plain)

/-- What is posted to register is registered, whatever else a service has behind its gate. -/
theorem converses_answer_register {more : List Route} (posts : request.Posts "/register")
    (converses : ((Router.withGated more).answer manager request).Converses turns response) :
    ∃ result, RegisterCourse manager request turns result ∧ response = responseOf result := by
  obtain ⟨posted, path⟩ := posts
  have found := path ▸ find?_register more
  rcases converses_answer_of_entry rfl rfl found converses with
    ⟨-, result, handled, rfl⟩ | ⟨other, -, -⟩
  · exact ⟨result, converses_register handled, rfl⟩
  · exact absurd posted other

/-- What is posted to log in is taken for a login, whatever else a service has behind its gate. -/
theorem converses_answer_login {more : List Route} (posts : request.Posts "/login")
    (converses : ((Router.withGated more).answer manager request).Converses turns response) :
    ∃ result, LoginCourse manager request turns result ∧ response = responseOf result := by
  obtain ⟨posted, path⟩ := posts
  have found := path ▸ find?_login more
  rcases converses_answer_of_entry rfl rfl found converses with
    ⟨-, result, handled, rfl⟩ | ⟨other, -, -⟩
  · exact ⟨result, converses_login handled, rfl⟩
  · exact absurd posted other

end SessionGate.Http
