import SessionGate.Proofs.Http.Gate
import SessionGate.Proofs.World.Outages

/-!
# What requests leave in the log

Every operation passes the internal failures of the stores and of the random source on or reports
them, whatever it is told. What is passed on up to the response is reported there, so that none is
lost, and the event of the request comes last. This needs handlers that are candid themselves. The
handlers of the service are, as `isLogged_and_isCandid` shows; of those that others mount on it, it
is assumed.
-/

namespace SessionGate

open SessionGate.Action

namespace Hasher

theorem leavesTrace_verify (hasher : Hasher) (password : Octets) (stored : PasswordRecord) :
    (hasher.verify password stored).LeavesTrace fun _ => none := by
  rw [verify]
  cases hasher.check password stored with
  | compared isSame => exact Program.leavesTrace_done isSame
  | malformed | failed =>
      exact Program.leavesTrace_bind_of_none (Program.leavesTrace_logService _ _ _) fun _ =>
        Program.leavesTrace_done false

theorem leavesTrace_freshTextRecord (hasher : Hasher) (password : String) :
    (hasher.freshTextRecord password).LeavesTrace :=
  leavesTrace_bind leavesTrace_drawSalt fun _ => leavesTrace_settled _

end Hasher

namespace Manager

variable (manager : Manager)

theorem leavesTrace_provision (user : NewUser) (role : Role) :
    (manager.provision user role).LeavesTrace :=
  leavesTrace_bind (manager.hasher.leavesTrace_freshTextRecord _) fun _ =>
    leavesTrace_bind (leavesTrace_insertUser _) fun _ =>
      leavesTrace_bind (leavesTrace_logService _ _ _) fun _ => leavesTrace_pure _

theorem leavesTrace_register (user : NewUser) : (manager.register user).LeavesTrace := by
  have opens : LeavesTrace (do
      if ← emailTaken user.email then
        logService .warn "registration for existing email" [("email", user.email)]
        throw .alreadyExists
      manager.provision user .user) := by
    refine leavesTrace_bind (leavesTrace_emailTaken _) fun taken => ?_
    split
    · exact leavesTrace_bind (leavesTrace_logService _ _ _) fun _ =>
        leavesTrace_bind (leavesTrace_throw _) fun _ => manager.leavesTrace_provision user .user
    · exact manager.leavesTrace_provision user .user
  rw [register]
  split
  · exact leavesTrace_bind (leavesTrace_throw _) fun _ => opens
  · exact opens

theorem leavesTrace_login (credentials : Credentials) :
    (manager.login credentials).LeavesTrace := by
  have issues (user : User) : LeavesTrace (do
      let now ← readClock
      let token := Token.ofBytes (← drawToken)
      let opened ← ExceptT.mk (pure (manager.openSession user now token))
      putSession opened.1.token opened.1.identity opened.2
      logService .debug "session issued"
        [("user_id", Decimal.text user.id.toInt), ("token", Token.hint opened.1.token),
          ("expires_at", opened.1.expiresAt.logStamp)]
      return (opened.1, user.id)) :=
    leavesTrace_bind leavesTrace_readClock fun _ => leavesTrace_bind leavesTrace_drawToken fun _ =>
      leavesTrace_bind (leavesTrace_settled _) fun _ =>
        leavesTrace_bind (leavesTrace_putSession _ _ _) fun _ =>
          leavesTrace_bind (leavesTrace_logService _ _ _) fun _ => leavesTrace_pure _
  rw [login]
  refine leavesTrace_bind (leavesTrace_findUser _) fun user => ?_
  refine leavesTrace_bind (leavesTrace_perform (Hasher.leavesTrace_verify _ _ _)) fun isRight => ?_
  split
  · exact leavesTrace_bind (leavesTrace_logService _ _ _) fun _ =>
      leavesTrace_bind (leavesTrace_throw _) fun _ => issues user
  · exact issues user

theorem leavesTrace_logout (token : String) : (logout token).LeavesTrace := by
  have revokes : LeavesTrace (do
      deleteSession token
      logService .debug "session revoked" [("token", Token.hint token)]) :=
    leavesTrace_bind (leavesTrace_deleteSession token) fun _ => leavesTrace_logService _ _ _
  rw [logout]
  split
  · exact leavesTrace_bind (leavesTrace_throw _) fun _ => revokes
  · exact revokes

theorem leavesTrace_resolve (token : String) : (resolve token).LeavesTrace := by
  have looksUp : LeavesTrace (do
      let identity ← getSession token
      logService .debug "session resolved"
        [("user_id", Decimal.text identity.userId.toInt), ("role", identity.role.name)]
      return identity) :=
    leavesTrace_bind (leavesTrace_getSession token) fun _ =>
      leavesTrace_bind (leavesTrace_logService _ _ _) fun _ => leavesTrace_pure _
  rw [resolve]
  split
  · exact leavesTrace_bind (leavesTrace_throw _) fun _ => looksUp
  · exact looksUp

end Manager

namespace Gate

theorem leavesTrace_checkExpiry (carrier : Carrier) : (checkExpiry carrier).LeavesTrace := by
  rw [checkExpiry]
  cases carrier.expires with
  | none => exact leavesTrace_pure ()
  | some expires =>
      refine leavesTrace_bind leavesTrace_readClock fun now => ?_
      split
      · exact leavesTrace_bind (leavesTrace_logService _ _ _) fun _ => leavesTrace_throw _
      · exact leavesTrace_pure ()

theorem leavesTrace_authenticate (carrier : Option Carrier) :
    (authenticate carrier).LeavesTrace := by
  cases carrier with
  | none => exact leavesTrace_throw _
  | some carrier =>
      rw [authenticate]
      refine leavesTrace_bind (leavesTrace_checkExpiry carrier) fun _ =>
        leavesTrace_bind (Manager.leavesTrace_resolve carrier.token) fun identity => ?_
      split
      · exact leavesTrace_bind (leavesTrace_throw _) fun _ => leavesTrace_pure identity
      · exact leavesTrace_pure identity

theorem leavesTrace_requireRole (identity : Identity) (required : Role) :
    (requireRole identity required).LeavesTrace := by
  rw [requireRole]
  split
  · exact leavesTrace_bind (leavesTrace_logService _ _ _) fun _ => leavesTrace_throw _
  · exact leavesTrace_pure ()

end Gate

namespace Http

variable {manager : Manager} {request : Request} {turns : List Turn} {response : Response}

/-! ## Handlers -/

theorem leavesTrace_refuseLiveSession (headers : List Header) :
    (refuseLiveSession headers).LeavesTrace := by
  rw [refuseLiveSession]
  refine leavesTrace_perform_bind (Gate.leavesTrace_authenticate _) (fun known => ?_)
    fun fault turns result proceeds => ?_
  · cases known with
    | ok identity =>
        exact leavesTrace_bind (leavesTrace_logService _ _ _) fun _ => leavesTrace_throw _
    | error error =>
        dsimp only
        split <;> exact leavesTrace_logService _ _ _
  · obtain ⟨rfl, -⟩ := proceeds_logService_iff.mp proceeds
    exact ⟨_, List.mem_singleton_self _, .inl rfl, List.mem_singleton_self _⟩

theorem leavesTrace_login (manager : Manager) (request : Request) :
    (login manager request).LeavesTrace :=
  leavesTrace_bind (leavesTrace_refuseLiveSession _) fun _ =>
    leavesTrace_bind (leavesTrace_settled _) fun _ =>
      leavesTrace_bind (leavesTrace_settled _) fun _ =>
      leavesTrace_bind (manager.leavesTrace_login _) fun _ =>
        leavesTrace_bind (leavesTrace_logService _ _ _) fun _ => leavesTrace_settled _

theorem leavesTrace_register (manager : Manager) (request : Request) :
    (register manager request).LeavesTrace :=
  leavesTrace_bind (leavesTrace_refuseLiveSession _) fun _ =>
    leavesTrace_bind (leavesTrace_settled _) fun _ =>
      leavesTrace_bind (leavesTrace_settled _) fun _ =>
      leavesTrace_bind (manager.leavesTrace_register _) fun _ =>
        leavesTrace_bind (manager.leavesTrace_login _) fun _ =>
          leavesTrace_bind (leavesTrace_logService _ _ _) fun _ => leavesTrace_settled _

theorem leavesTrace_logout (request : Request) : (logout request).LeavesTrace := by
  rw [logout]
  cases Cookie.carrier? request.headers with
  | none => exact leavesTrace_throw _
  | some carrier =>
      exact leavesTrace_bind (Gate.leavesTrace_authenticate _) fun _ =>
        leavesTrace_bind (Manager.leavesTrace_logout _) fun _ =>
          leavesTrace_bind (leavesTrace_logService _ _ _) fun _ =>
            leavesTrace_bind leavesTrace_readClock fun _ =>
              leavesTrace_bind (leavesTrace_settled _) fun _ => leavesTrace_pure _

/-- A handler that hides no internal failure of what it asks, keeps clear of the log of requests,
and leaves it to its own failures to be failures of the server. -/
structure Handler.IsCandid (handler : Handler) : Prop where
  leavesTrace : ∀ manager request identity, (handler manager request identity).LeavesTrace
  succeeds : ∀ manager request identity,
    (handler manager request identity).Succeeds fun response => response.status < 500

theorem status_of_sessionResponse {session : Session} {id : UserId}
    (made : sessionResponse session id = .ok response) : response.status < 500 := by
  rw [sessionResponse] at made
  cases issued : Cookie.issue session with
  | error error =>
      rw [issued] at made
      cases made
  | ok cookie =>
      rw [issued] at made
      cases made
      exact (by decide : 200 < 500)

theorem login_isCandid : (Handler.ofAnyone login).IsCandid where
  leavesTrace manager request _ := leavesTrace_login manager request
  succeeds manager request _ := by
    refine succeeds_bind fun _ => succeeds_bind fun _ => succeeds_bind fun _ =>
      succeeds_bind fun _ => succeeds_bind fun _ => succeeds_settled fun _ => ?_
    exact status_of_sessionResponse

theorem register_isCandid : (Handler.ofAnyone register).IsCandid where
  leavesTrace manager request _ := leavesTrace_register manager request
  succeeds manager request _ := by
    refine succeeds_bind fun _ => succeeds_bind fun _ => succeeds_bind fun _ =>
      succeeds_bind fun _ => succeeds_bind fun _ => succeeds_bind fun _ =>
      succeeds_settled fun _ => ?_
    exact status_of_sessionResponse

theorem logout_isCandid : (Handler.ofAnyone fun _ request => logout request).IsCandid where
  leavesTrace _ request _ := leavesTrace_logout request
  succeeds _ request _ := by
    change (logout request).Succeeds _
    rw [logout]
    cases Cookie.carrier? request.headers with
    | none => exact succeeds_throw _
    | some carrier =>
        refine succeeds_bind fun _ => succeeds_bind fun _ => succeeds_bind fun _ =>
          succeeds_bind fun _ => succeeds_bind fun _ => succeeds_pure ?_
        exact (by decide : 204 < 500)

theorem check_isCandid : (Handler.ofAnyone fun _ _ => check).IsCandid where
  leavesTrace _ _ _ := leavesTrace_pure _
  succeeds _ _ _ := succeeds_pure (by decide)

theorem ofIdentity_isCandid {answer : Identity → Action Response}
    (traced : ∀ identity, (answer identity).LeavesTrace)
    (mild : ∀ identity, (answer identity).Succeeds fun response => response.status < 500) :
    (Handler.ofIdentity answer).IsCandid where
  leavesTrace _ _ identity := by
    cases identity with
    | none => exact leavesTrace_throw _
    | some identity => exact traced identity
  succeeds _ _ identity := by
    cases identity with
    | none => exact succeeds_throw _
    | some identity => exact mild identity

theorem currentSession_isCandid : (Handler.ofIdentity currentSession).IsCandid :=
  ofIdentity_isCandid (fun _ => leavesTrace_pure _) fun _ => succeeds_pure (by decide : 200 < 500)

theorem moderation_isCandid : (Handler.ofIdentity moderation).IsCandid :=
  ofIdentity_isCandid
    (fun _ => leavesTrace_bind (Gate.leavesTrace_requireRole _ _) fun _ => leavesTrace_pure _)
    fun _ => succeeds_bind fun _ => succeeds_pure (by decide : 204 < 500)

/-! ## Responses -/

/-- A failure of the server has been logged as an error in the words that the caller is told. -/
def IsExplained (turns : List Turn) (response : Response) : Prop :=
  ∃ (error : AuthError) (event : Event), ⟨.log event, ()⟩ ∈ turns ∧ event.level = .error ∧
    ("error", error.message) ∈ event.fields ∧ response.body = (failureResponse error).body

/-- Whatever the program is told, no internal failure is lost in it, and a response that
is a failure of the server is explained. -/
structure IsAccountable (program : Program Response) : Prop where
  leavesTrace : program.LeavesTrace fun _ => none
  explained : ∀ turns response, program.Proceeds turns response → 500 ≤ response.status →
    IsExplained turns response

theorem isAccountable_done (mild : response.status < 500) :
    IsAccountable (Program.done response) where
  leavesTrace := Program.leavesTrace_done response
  explained turns other proceeds severe := by
    obtain ⟨-, rfl⟩ := Program.proceeds_done_iff.mp proceeds
    omega

theorem eq_of_proceeds_failure {error : AuthError} (server : error.isServerFailure = true)
    (proceeds : (failure error).Proceeds turns response) :
    turns = [⟨.log (.service .error "request failed" [("error", error.message)]), ()⟩] ∧
      response = failureResponse error := by
  rw [failure, server, if_pos rfl] at proceeds
  obtain ⟨_, _, _, rfl, logged, ended⟩ := Program.proceeds_bind_iff.mp proceeds
  obtain rfl := Program.proceeds_query_iff.mp logged
  obtain ⟨rfl, rfl⟩ := Program.proceeds_done_iff.mp ended
  exact ⟨rfl, rfl⟩

theorem isAccountable_failure (error : AuthError) : IsAccountable (failure error) := by
  cases server : error.isServerFailure with
  | false =>
      rw [failure, server]
      have mild : error.status < 500 := by simpa [AuthError.isServerFailure] using server
      exact isAccountable_done mild
  | true =>
      constructor
      case leavesTrace =>
        rw [failure, server]
        exact Program.leavesTrace_bind_of_none (Program.leavesTrace_logService _ _ _) fun _ =>
          Program.leavesTrace_done _
      case explained =>
        intro turns response proceeds severe
        obtain ⟨rfl, rfl⟩ := eq_of_proceeds_failure server proceeds
        exact ⟨error, _, List.mem_singleton_self _, rfl, List.mem_singleton_self _, rfl⟩

/-- An internal failure that has been handed on as far as here is reported. -/
theorem isReported_of_proceeds_failure {fault : Fault}
    (proceeds : (failure (.internal fault)).Proceeds turns response) :
    IsReported turns (.internal fault) := by
  obtain ⟨rfl, -⟩ := eq_of_proceeds_failure rfl proceeds
  exact ⟨_, List.mem_singleton_self _, .inr rfl, List.mem_singleton_self _⟩

theorem IsExplained.append {rest : List Turn} (explained : IsExplained rest response)
    (first : List Turn) : IsExplained (first ++ rest) response := by
  obtain ⟨error, event, logged, told⟩ := explained
  exact ⟨error, event, List.mem_append_right first logged, told⟩

/-- What makes a response of a failure, and goes on from a success to an accountable end. -/
theorem isAccountable_bind {α : Type} {action : Action α}
    {next : Except AuthError α → Program Response} (traced : action.LeavesTrace)
    (fails : ∀ error, next (.error error) = failure error)
    (traces : ∀ value, (next (.ok value)).LeavesTrace fun _ => none)
    (explains : ∀ first value, Program.Proceeds action.run first (.ok value) →
      ∀ rest response, (next (.ok value)).Proceeds rest response → 500 ≤ response.status →
        IsExplained rest response) : IsAccountable (action.run >>= next) where
  leavesTrace := by
    refine Program.leavesTrace_bind traced (fun result => ?_)
      fun result fault isLeft rest response proceeds => ?_
    · cases result with
      | ok value => exact traces value
      | error error => exact fails error ▸ (isAccountable_failure error).leavesTrace
    · cases result with
      | ok value => cases isLeft
      | error error =>
          cases isLeft
          rw [fails] at proceeds
          exact .inr (isReported_of_proceeds_failure proceeds)
  explained := by
    intro turns response proceeds severe
    obtain ⟨first, rest, result, rfl, before, behind⟩ := Program.proceeds_bind_iff.mp proceeds
    cases result with
    | ok value => exact (explains first value before rest response behind severe).append first
    | error error =>
        rw [fails] at behind
        exact ((isAccountable_failure error).explained rest response behind severe).append first

theorem isAccountable_respond {action : Action Response} (traced : action.LeavesTrace)
    (mild : action.Succeeds fun response => response.status < 500) :
    IsAccountable (respond action) := by
  refine isAccountable_bind traced (fun _ => rfl) (fun _ => Program.leavesTrace_done _)
    fun first value before rest response behind severe => ?_
  exact (isAccountable_done (mild first value before)).explained rest response behind severe

variable {route : Route}

theorem isAccountable_dispatch (candid : route.handler.IsCandid) (manager : Manager)
    (request : Request) (identity : Option Identity) :
    IsAccountable (route.dispatch manager request identity) := by
  rw [Route.dispatch]
  split
  · exact isAccountable_respond (candid.leavesTrace _ _ _) (candid.succeeds _ _ _)
  · exact isAccountable_done (by decide : 405 < 500)

theorem isAccountable_throughGate (candid : route.handler.IsCandid) (manager : Manager)
    (request : Request) : IsAccountable (route.throughGate manager request) := by
  have dispatched (identity : Option Identity) :=
    isAccountable_dispatch candid manager request identity
  rw [Route.throughGate]
  split
  · exact isAccountable_bind (Gate.leavesTrace_authenticate _) (fun _ => rfl)
      (fun identity => (dispatched (some identity)).leavesTrace)
      fun _ identity _ => (dispatched (some identity)).explained
  · exact dispatched none

/-- The body of a failure is the one that explains it, but for a request for the head. -/
theorem complete_body (route : Route) (request : Request) (response : Response) :
    (route.complete request response).body =
      if request.method = "HEAD" then "" else response.body := by
  rw [Route.complete]
  split <;> split <;> simp_all

/-! ## Requests -/

/-- No internal failure of a store has been lost, and a failure of the server has been logged as an
error in the words that the caller is told, unless only the head of the response was asked for. -/
structure IsAnswered (request : Request) (turns : List Turn) (response : Response) : Prop where
  traced : IsTraced turns none
  explained : 500 ≤ response.status → ∃ (error : AuthError) (event : Event),
    ⟨.log event, ()⟩ ∈ turns ∧ event.level = .error ∧ ("error", error.message) ∈ event.fields ∧
      response.body = if request.method = "HEAD" then "" else (failureResponse error).body

theorem isAnswered_of_route (candid : route.handler.IsCandid)
    (proceeds : (route.answer manager request).Proceeds turns response) :
    IsAnswered request turns response := by
  have accountable := isAccountable_throughGate candid manager request
  rw [Route.answer] at proceeds
  obtain ⟨first, _, incomplete, rfl, through, ended⟩ := Program.proceeds_bind_iff.mp proceeds
  obtain ⟨rfl, rfl⟩ := Program.proceeds_done_iff.mp ended
  rw [List.append_nil]
  refine ⟨accountable.leavesTrace _ _ through, fun severe => ?_⟩
  rw [complete_status] at severe
  obtain ⟨error, event, logged, level, told, body⟩ :=
    accountable.explained _ _ through severe
  exact ⟨error, event, logged, level, told, by rw [complete_body, body]⟩

theorem isAnswered_of_none : IsAnswered request [] (.ofStatus 404) :=
  ⟨.nil none, fun severe => absurd severe (by decide)⟩

/-- Every route of a service logs its requests and has a candid handler, if those have that the
service has been given. -/
theorem isLogged_and_isCandid {extras : List (List Segment × RouteMethod × Handler)}
    {path : String}
    (candid : ∀ extra ∈ extras,
      (Router.gatedRoute extra.1 extra.2.1 extra.2.2).accepts path = true → extra.2.2.IsCandid)
    (found : (Router.guarding extras).routes.find? (·.accepts path) = some route) :
    route.isLogged = true ∧ route.handler.IsCandid := by
  have accepted := List.find?_some found
  have member := List.mem_of_find?_eq_some found
  rcases List.mem_append.mp member with standard | extra
  · simp only [Router.entryPoints, Router.standardGated, List.cons_append, List.nil_append,
      List.mem_cons, List.not_mem_nil, or_false] at standard
    rcases standard with rfl | rfl | rfl | rfl | rfl | rfl
    · exact ⟨rfl, login_isCandid⟩
    · exact ⟨rfl, register_isCandid⟩
    · exact ⟨rfl, logout_isCandid⟩
    · exact ⟨rfl, check_isCandid⟩
    · exact ⟨rfl, currentSession_isCandid⟩
    · exact ⟨rfl, moderation_isCandid⟩
  · obtain ⟨more, given, rfl⟩ := List.mem_map.mp extra
    exact ⟨rfl, candid more given accepted⟩

/-- A request is answered, and then its event is logged. -/
theorem exists_isAnswered {extras : List (List Segment × RouteMethod × Handler)}
    (candid : ∀ extra ∈ extras,
      (Router.gatedRoute extra.1 extra.2.1 extra.2.2).accepts request.path = true →
        extra.2.2.IsCandid)
    (proceeds : ((Router.guarding extras).answer manager request).Proceeds turns response) :
    ∃ talk, turns = talk ++ [⟨.log (accessEvent request response), ()⟩] ∧
      IsAnswered request talk response := by
  have finished {response' : Response} {turns : List Turn} {isLogged : Bool}
      (logs : isLogged = true)
      (proceeds : (Router.finish isLogged request response').Proceeds turns response) :
      turns = [⟨.log (accessEvent request response), ()⟩] ∧ response = response' := by
    rw [Router.finish, logs, if_pos rfl] at proceeds
    obtain ⟨_, _, _, rfl, logged, ended⟩ := Program.proceeds_bind_iff.mp proceeds
    obtain rfl := Program.proceeds_query_iff.mp logged
    obtain ⟨rfl, rfl⟩ := Program.proceeds_done_iff.mp ended
    exact ⟨rfl, rfl⟩
  rw [Router.answer] at proceeds
  split at proceeds
  · rename_i route found
    obtain ⟨logs, routeCandid⟩ := isLogged_and_isCandid candid found
    obtain ⟨talk, rest, answered, rfl, answering, ended⟩ := Program.proceeds_bind_iff.mp proceeds
    obtain ⟨rfl, rfl⟩ := finished logs ended
    exact ⟨talk, rfl, isAnswered_of_route routeCandid answering⟩
  · obtain ⟨rfl, rfl⟩ := finished rfl proceeds
    exact ⟨[], rfl, isAnswered_of_none⟩

/-- What a request has left in the log: one event in the log of requests, which comes last and has
the status of the response, and a report of every internal failure met on the way. A failure of
the server has been logged before as an error, in the words that the caller is told. -/
structure IsLogged (request : Request) (turns : List Turn) (response : Response)
    (entries : List JournalEntry) : Prop where
  access : ∃ earlier, entries = earlier ++ [.logged ⟨.info, .access, "request",
      [("method", request.method), ("path", request.path),
        ("status", Decimal.text response.status)]⟩] ∧
    (∀ event, .logged event ∈ earlier → event.channel = .service) ∧
    (500 ≤ response.status → ∃ (error : AuthError) (event : Event), .logged event ∈ earlier ∧
      event.level = .error ∧ ("error", error.message) ∈ event.fields ∧
      response.body = if request.method = "HEAD" then "" else
        String.ofList (Json.writeObject [("err", Json.writeText error.message)]))
  reported : ∀ turn ∈ turns, ∀ fault, turn.failure? = some (.internal fault) →
    ∃ event : Event, .logged event ∈ entries ∧ event.Reports (.internal fault)

theorem isLogged_of_notes {talk : List Turn} {entries : List JournalEntry}
    (answered : IsAnswered request talk response)
    (notes : World.Notes (talk ++ [⟨.log (accessEvent request response), ()⟩]) entries) :
    IsLogged request (talk ++ [⟨.log (accessEvent request response), ()⟩]) response entries := by
  obtain ⟨earlier, last, rfl, before, final⟩ := notes.split
  obtain rfl := final.eq_singleton
  constructor
  case access =>
    refine ⟨earlier, rfl, fun event logged => ?_, fun severe => ?_⟩
    · rcases before.of_logged_mem logged with told | ⟨message, fields, same⟩
      · exact answered.traced.service event told
      · cases same
        rfl
    · obtain ⟨error, event, told, level, words, body⟩ := answered.explained severe
      exact ⟨error, event, before.logged_mem told, level, words, body⟩
  case reported =>
    intro turn member fault failed
    rcases List.mem_append.mp member with inTalk | isLast
    · rcases answered.traced.traced turn inTalk fault failed with isLeft | ⟨event, told, reports⟩
      · cases isLeft
      · exact ⟨event, List.mem_append_left _ (before.logged_mem told), reports⟩
    · obtain rfl := List.mem_singleton.mp isLast
      cases failed

/-- Whatever request comes and whatever calls on the stores fail, no failure goes without a trace
in the log. The handlers that the service has been given besides its own are assumed to be candid
where they are asked; its own have been shown to be. -/
theorem failures_leave_trace (extras : List (List Segment × RouteMethod × Handler))
    (manager : Manager) (request : Request)
    (candid : ∀ extra ∈ extras,
      (Router.gatedRoute extra.1 extra.2.1 extra.2.2).accepts request.path = true →
        extra.2.2.IsCandid)
    (world : World) (outages : Nat → Option Fault) :
    ∃ entries,
      (((Router.guarding extras).answer manager request).run (World.answerAmid outages)
        (world, 0)).2.1.journal = world.journal ++ entries ∧
      IsLogged request
        (((Router.guarding extras).answer manager request).proceedings (World.answerAmid outages)
          (world, 0))
        (((Router.guarding extras).answer manager request).run (World.answerAmid outages)
          (world, 0)).1 entries := by
  obtain ⟨entries, journal, notes⟩ := World.exists_journal_run outages
    ((Router.guarding extras).answer manager request) (world, 0)
  obtain ⟨talk, turns, answered⟩ := exists_isAnswered candid
    (Program.proceeds_proceedings (World.answerAmid outages) _ (world, 0))
  rw [turns] at notes ⊢
  exact ⟨entries, journal, isLogged_of_notes answered notes⟩

/-- A caller with a cookie is told that the store of sessions is down, and so is the log. -/
theorem outage_leaves_trace :
    ∃ extras : List (List Segment × RouteMethod × Handler), ∃ request : Request, ∃ entries,
      (∀ extra ∈ extras,
        (Router.gatedRoute extra.1 extra.2.1 extra.2.2).accepts request.path = true →
          extra.2.2.IsCandid) ∧
      (((Router.guarding extras).answer .cheap request).run
        (World.answerAmid fun _ => some (.reported "down"))
        (World.start .epoch (fun _ => .replicate 8 0) (fun _ => .replicate 32 0), 0)).1.status =
          500 ∧
      IsLogged request
        (((Router.guarding extras).answer .cheap request).proceedings
          (World.answerAmid fun _ => some (.reported "down"))
          (World.start .epoch (fun _ => .replicate 8 0) (fun _ => .replicate 32 0), 0))
        (((Router.guarding extras).answer .cheap request).run
          (World.answerAmid fun _ => some (.reported "down"))
          (World.start .epoch (fun _ => .replicate 8 0) (fun _ => .replicate 32 0), 0)).1
          entries := by
  have candid : ∀ extra ∈ [([Segment.literal "health"], RouteMethod.get,
      Handler.ofIdentity fun _ => return Response.ofStatus 204)],
      (Router.gatedRoute extra.1 extra.2.1 extra.2.2).accepts "/api/v1/health" = true →
        extra.2.2.IsCandid := by
    intro extra member _
    obtain rfl := List.mem_singleton.mp member
    exact ofIdentity_isCandid (fun _ => leavesTrace_pure _) fun _ =>
      succeeds_pure (by decide : 204 < 500)
  obtain ⟨entries, -, logged⟩ := failures_leave_trace _ .cheap
    ⟨"GET", "/api/v1/health", [⟨"Cookie", Octets.ofText "session_token=t"⟩], []⟩ candid
    (World.start .epoch (fun _ => .replicate 8 0) (fun _ => .replicate 32 0))
    fun _ => some (.reported "down")
  exact ⟨_, _, entries, candid, by decide +kernel, logged⟩

end Http

end SessionGate
