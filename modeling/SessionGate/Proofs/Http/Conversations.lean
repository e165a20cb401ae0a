import SessionGate.Proofs.Http.Cookie
import SessionGate.Proofs.Http.Deeds
import SessionGate.Proofs.Http.Gate
import SessionGate.Proofs.Sessions.Conversations

/-!
# How requests converse

What the answer to a request asks of the stores, in which order, and what response it makes of
their answers, whatever they are.
-/

namespace SessionGate

namespace Gate

/-- An identity that is known is let in, unless it is nobody's. -/
def pass : Except AuthError Identity → Except AuthError Identity
  | .ok identity => if identity.userId = 0 then .error .unauthorized else .ok identity
  | .error error => .error error

/-- How the gate is asked about a caller whose carrier does not say when it ends. -/
inductive Asks (carrier : Option Carrier) : List Turn → Except AuthError Identity → Prop where
  | nobody (missing : carrier = none) : Asks carrier [] (.error .unauthorized)
  | somebody {token : String} {turns : List Turn} {known : Except AuthError Identity}
      (carried : carrier = some ⟨token, none⟩) (resolves : Manager.Resolves token turns known) :
      Asks carrier turns (pass known)

/-- The gate looks tokens up and does nothing else. -/
theorem Asks.exists_getSession {carrier : Option Carrier} {turns : List Turn}
    {result : Except AuthError Identity} (asks : Asks carrier turns result) {turn : Turn}
    (member : turn ∈ turns) : ∃ token, turn.1 = .getSession token := by
  cases asks with
  | nobody missing => cases member
  | somebody carried resolves =>
      cases resolves with
      | blank blank => cases member
      | asked notBlank =>
          obtain rfl := List.mem_singleton.mp member
          exact ⟨_, rfl⟩

theorem Asks.eq_nil {turns : List Turn} {result : Except AuthError Identity}
    (asks : Asks none turns result) : turns = [] := by
  cases asks with
  | nobody missing => rfl
  | somebody carried resolves => cases carried

/-- Whom the gate accepts, the store of sessions has vouched for. -/
theorem Asks.eq_of_ok {carrier : Option Carrier} {turns : List Turn} {identity : Identity}
    {result : Except AuthError Identity} (asks : Asks carrier turns result)
    (accepted : result = .ok identity) :
    ∃ token, carrier = some ⟨token, none⟩ ∧ token.isEmpty = false ∧
      turns = [⟨.getSession token, .ok identity⟩] ∧ identity.userId ≠ 0 := by
  cases asks with
  | nobody missing => cases accepted
  | @somebody token turns known carried resolves =>
      cases resolves with
      | blank blank => cases accepted
      | asked notBlank =>
          cases known with
          | error error => cases accepted
          | ok found =>
              rw [pass] at accepted
              split at accepted
              · cases accepted
              · rename_i somebody
                cases accepted
                exact ⟨token, carried, notBlank, rfl, somebody⟩

theorem converses_authenticate {headers : List Http.Header} {turns : List Turn}
    {result : Except AuthError Identity}
    (converses : (authenticate (Http.Cookie.carrier? headers)).Converses turns result) :
    Asks (Http.Cookie.carrier? headers) turns result := by
  cases carried : Http.Cookie.carrier? headers with
  | none =>
      rw [carried, authenticate] at converses
      obtain ⟨rfl, rfl⟩ := Action.converses_throw_iff.mp converses
      exact .nobody rfl
  | some carrier =>
      obtain ⟨token, expires⟩ := carrier
      obtain rfl : expires = none := Http.expires_of_carrier? carried
      rw [carried, authenticate] at converses
      rcases Action.converses_bind_iff.mp converses with ⟨error, checked, -⟩ |
        ⟨_, asked, _, rfl, checked, accepted⟩
      · cases (Action.converses_pure_iff.mp checked).2
      obtain ⟨rfl, -⟩ := Action.converses_pure_iff.mp checked
      rcases Action.converses_bind_iff.mp accepted with ⟨error, resolved, rfl⟩ |
        ⟨turns, _, identity, rfl, resolved, admitted⟩
      · exact .somebody rfl (Manager.converses_resolve resolved)
      have resolves := Manager.converses_resolve resolved
      have admits : Asks (some ⟨token, none⟩) turns (pass (.ok identity)) := .somebody rfl resolves
      by_cases nobody : identity.userId = 0
      · rw [if_pos nobody, Action.converses_throw_bind_iff] at admitted
        obtain ⟨rfl, rfl⟩ := admitted
        rw [pass, if_pos nobody] at admits
        simpa using admits
      · rw [if_neg nobody, Action.converses_pure_iff] at admitted
        obtain ⟨rfl, rfl⟩ := admitted
        rw [pass, if_neg nobody] at admits
        simpa using admits

end Gate

namespace Http

variable {manager : Manager} {request : Request} {turns : List Turn}

/-- The response that tells of a result. -/
def responseOf : Except AuthError Response → Response
  | .ok response => response
  | .error error => failureResponse error

theorem converses_failure {error : AuthError} {response : Response}
    (converses : (failure error).Converses turns response) :
    turns = [] ∧ response = failureResponse error := by
  rw [failure] at converses
  cases server : error.isServerFailure with
  | false =>
      rw [server, if_neg Bool.false_ne_true] at converses
      exact Program.converses_done_iff.mp converses
  | true =>
      rw [server, if_pos rfl] at converses
      obtain ⟨_, _, _, rfl, logged, ended⟩ := Program.converses_bind_iff.mp converses
      obtain rfl := Program.converses_query_log_iff.mp logged
      exact Program.converses_done_iff.mp ended

theorem converses_respond {action : Action Response} {response : Response}
    (converses : (respond action).Converses turns response) :
    ∃ result, action.Converses turns result ∧ response = responseOf result := by
  obtain ⟨first, rest, result, rfl, before, behind⟩ := Program.converses_bind_iff.mp converses
  refine ⟨result, ?_⟩
  cases result with
  | ok value =>
      obtain ⟨rfl, rfl⟩ := Program.converses_done_iff.mp behind
      exact ⟨(List.append_nil first).symm ▸ before, rfl⟩
  | error error =>
      obtain ⟨rfl, rfl⟩ := converses_failure behind
      exact ⟨(List.append_nil first).symm ▸ before, rfl⟩

/-- Who has a live session is refused, and everybody else is not. -/
theorem converses_refuseLiveSession {headers : List Header} {result : Except AuthError Unit}
    (converses : (refuseLiveSession headers).Converses turns result) :
    (∃ identity, Gate.Asks (Cookie.carrier? headers) turns (.ok identity) ∧
        result = .error .unauthorized) ∨
      ∃ error, Gate.Asks (Cookie.carrier? headers) turns (.error error) ∧ result = .ok () := by
  rw [refuseLiveSession] at converses
  obtain ⟨first, rest, known, rfl, before, behind⟩ :=
    Action.converses_perform_bind_iff.mp converses
  have asks := Gate.converses_authenticate before
  cases known with
  | ok identity =>
      rw [Action.converses_logService_bind_iff, Action.converses_throw_iff] at behind
      obtain ⟨rfl, rfl⟩ := behind
      exact .inl ⟨identity, (List.append_nil first).symm ▸ asks, rfl⟩
  | error error =>
      dsimp only at behind
      have logged : rest = [] ∧ result = .ok () := by
        split at behind <;> exact Action.converses_logService_iff.mp behind
      obtain ⟨rfl, rfl⟩ := logged
      exact .inr ⟨error, (List.append_nil first).symm ▸ asks, rfl⟩

/-! ## The entry points -/

theorem settle_bind {α β : Type} (outcome : Except AuthError α) (next : α → Action β) :
    settle outcome >>= next =
      match outcome with
      | .ok value => next value
      | .error error => throw error := by
  cases outcome <;> rfl

/-- What is presented is settled before anything else is done with it. -/
theorem bind_presentedCredentials (next : Credentials → Action Response) (request : Request) :
    (do
      let presented ← settle (readBody Credentials.read request)
      let credentials : Credentials := { presented with email := Text.trim presented.email }
      settle (checkCredentials credentials.email credentials.password)
      next credentials) =
      match presentedCredentials request with
      | .ok credentials => next credentials
      | .error error => throw error := by
  rw [presentedCredentials, settle_bind]
  cases readBody Credentials.read request with
  | error error => rfl
  | ok presented =>
      dsimp only
      rw [settle_bind]
      dsimp only [bind, Except.bind]
      cases checkCredentials (Text.trim presented.email) presented.password <;> rfl

theorem bind_presentedUser (next : NewUser → Action Response) (request : Request) :
    (do
      let presented ← settle (readBody NewUser.read request)
      let user : NewUser := { presented with email := Text.trim presented.email }
      settle (checkCredentials user.email user.password)
      next user) =
      match presentedUser request with
      | .ok user => next user
      | .error error => throw error := by
  rw [presentedUser, settle_bind]
  cases readBody NewUser.read request with
  | error error => rfl
  | ok presented =>
      dsimp only
      rw [settle_bind]
      dsimp only [bind, Except.bind]
      cases checkCredentials (Text.trim presented.email) presented.password <;> rfl

/-- What is left of a login once credentials have been read. -/
def loginWith (manager : Manager) (credentials : Credentials) : Action Response := do
  let (session, id) ← manager.login credentials
  Action.logService .info "login" [("user_id", Decimal.text id.toInt)]
  settle (sessionResponse session id)

theorem login_eq (manager : Manager) (request : Request) :
    login manager request = (do
      refuseLiveSession request.headers
      match presentedCredentials request with
      | .ok credentials => loginWith manager credentials
      | .error error => throw error) :=
  congrArg (refuseLiveSession request.headers >>= ·)
    (funext fun _ => bind_presentedCredentials (loginWith manager) request)

/-- What is left of a registration once the user has been read. -/
def registerWith (manager : Manager) (user : NewUser) : Action Response := do
  let id ← manager.register user
  let (session, _) ← manager.login user.credentials
  Action.logService .info "registered" [("user_id", Decimal.text id.toInt)]
  settle (sessionResponse session id)

theorem register_eq (manager : Manager) (request : Request) :
    register manager request = (do
      refuseLiveSession request.headers
      match presentedUser request with
      | .ok user => registerWith manager user
      | .error error => throw error) :=
  congrArg (refuseLiveSession request.headers >>= ·)
    (funext fun _ => bind_presentedUser (registerWith manager) request)

/-! ## What is presented -/

theorem status_bind {α β : Type} {first : Except AuthError α} {next : α → Except AuthError β}
    {status : Nat} (refuses : ∀ error, first = .error error → error.status = status)
    (later : ∀ value error, next value = .error error → error.status = status) :
    ∀ error, first >>= next = .error error → error.status = status := by
  cases first with
  | error refusal =>
      rintro error ⟨⟩
      exact refuses _ rfl
  | ok value => exact later value

theorem readBody_of_error {α : Type} {reader : Json.Reader α} {bodyError : BodyError}
    (unread : Body.read reader request = .error bodyError) :
    readBody reader request = .error (.badRequest (.body bodyError)) := by
  rw [readBody, unread]
  rfl

theorem status_readBody {α : Type} (reader : Json.Reader α) (request : Request) :
    ∀ error, readBody reader request = .error error → error.status = 400 := by
  rw [readBody]
  cases Body.read reader request with
  | ok value => rintro _ ⟨⟩
  | error bodyError =>
      rintro error ⟨⟩
      rfl

theorem status_checkCredentials (email password : String) :
    ∀ error, checkCredentials email password = .error error → error.status = 400 := by
  rw [checkCredentials]
  split
  · rintro error ⟨⟩
    rfl
  · rintro _ ⟨⟩

theorem status_presentedCredentials (request : Request) :
    ∀ error, presentedCredentials request = .error error → error.status = 400 := by
  rw [presentedCredentials]
  refine status_bind (status_readBody _ request) fun presented => ?_
  refine status_bind (status_checkCredentials _ _) fun _ => ?_
  rintro _ ⟨⟩

theorem status_presentedUser (request : Request) :
    ∀ error, presentedUser request = .error error → error.status = 400 := by
  rw [presentedUser]
  refine status_bind (status_readBody _ request) fun presented => ?_
  refine status_bind (status_checkCredentials _ _) fun _ => ?_
  rintro _ ⟨⟩

theorem presentedCredentials_of_unread {bodyError : BodyError}
    (unread : Body.read Credentials.read request = .error bodyError) :
    presentedCredentials request = .error (.badRequest (.body bodyError)) := by
  rw [presentedCredentials, readBody_of_error unread]
  rfl

theorem presentedUser_of_unread {bodyError : BodyError}
    (unread : Body.read NewUser.read request = .error bodyError) :
    presentedUser request = .error (.badRequest (.body bodyError)) := by
  rw [presentedUser, readBody_of_error unread]
  rfl

/-! ## Courses -/

/-- The response that hands out the session of a token. -/
def handingOut (id : UserId) (token : String) (expires : Time.Instant) : Response :=
  (success (Json.writeObject [("id", Decimal.ofInt id.toInt)])).withCookie
    (Octets.ofText (Cookie.headerText token expires))

/-- A session that a login has issued can be handed out. -/
theorem sessionResponse_of_logsIn {credentials : Credentials} {session : Session} {owner : UserId}
    (logsIn : manager.LogsIn credentials turns (.ok (session, owner))) (id : UserId) :
    sessionResponse session id = .ok (handingOut id session.token session.expiresAt) := by
  obtain ⟨user, now, bytes, lifetime, -, -, opened, -⟩ := logsIn.eq_of_ok
  obtain ⟨token, -⟩ := Manager.eq_of_openSession opened
  rw [sessionResponse, Cookie.issue, token, Cookie.header_ofBytes]
  rfl

/-- How a request to log in goes. -/
inductive LoginCourse (manager : Manager) (request : Request) :
    List Turn → Except AuthError Response → Prop where
  | live {turns : List Turn} {identity : Identity}
      (asks : Gate.Asks (Cookie.carrier? request.headers) turns (.ok identity)) :
      LoginCourse manager request turns (.error .unauthorized)
  | unfit {turns : List Turn} {refusal error : AuthError}
      (asks : Gate.Asks (Cookie.carrier? request.headers) turns (.error refusal))
      (unfit : presentedCredentials request = .error error) :
      LoginCourse manager request turns (.error error)
  | answered {gate talk : List Turn} {refusal : AuthError} {credentials : Credentials}
      {outcome : Except AuthError (Session × UserId)}
      (asks : Gate.Asks (Cookie.carrier? request.headers) gate (.error refusal))
      (presented : presentedCredentials request = .ok credentials)
      (logsIn : manager.LogsIn credentials talk outcome) :
      LoginCourse manager request (gate ++ talk)
        (outcome.map fun (session, id) => handingOut id session.token session.expiresAt)

theorem converses_login {result : Except AuthError Response}
    (converses : (login manager request).Converses turns result) :
    LoginCourse manager request turns result := by
  rw [login_eq] at converses
  rcases Action.converses_bind_iff.mp converses with ⟨error, gate, rfl⟩ |
    ⟨gate, rest, _, rfl, passed, behind⟩
  · rcases converses_refuseLiveSession gate with ⟨identity, asks, same⟩ | ⟨refusal, -, same⟩
    · cases same
      exact .live asks
    · cases same
  rcases converses_refuseLiveSession passed with ⟨identity, -, same⟩ | ⟨refusal, asks, -⟩
  · cases same
  cases presented : presentedCredentials request with
  | error error =>
      rw [presented] at behind
      obtain ⟨rfl, rfl⟩ := Action.converses_throw_iff.mp behind
      exact .unfit ((List.append_nil gate).symm ▸ asks) presented
  | ok credentials =>
      rw [presented] at behind
      rcases Action.converses_bind_iff.mp behind with ⟨error, refused, rfl⟩ |
        ⟨talk, _, ⟨session, id⟩, rfl, issued, ended⟩
      · exact .answered asks presented (Manager.converses_login refused)
      · rw [Action.converses_logService_bind_iff] at ended
        obtain ⟨rfl, rfl⟩ := Action.converses_settled_iff.mp ended
        have logsIn := Manager.converses_login issued
        rw [List.append_nil, sessionResponse_of_logsIn logsIn]
        exact .answered asks presented logsIn

/-- How a request to open an account goes: after the registration comes a login. -/
inductive RegisterCourse (manager : Manager) (request : Request) :
    List Turn → Except AuthError Response → Prop where
  | live {turns : List Turn} {identity : Identity}
      (asks : Gate.Asks (Cookie.carrier? request.headers) turns (.ok identity)) :
      RegisterCourse manager request turns (.error .unauthorized)
  | unfit {turns : List Turn} {refusal error : AuthError}
      (asks : Gate.Asks (Cookie.carrier? request.headers) turns (.error refusal))
      (unfit : presentedUser request = .error error) :
      RegisterCourse manager request turns (.error error)
  | unopened {gate talk : List Turn} {refusal error : AuthError} {user : NewUser}
      (asks : Gate.Asks (Cookie.carrier? request.headers) gate (.error refusal))
      (presented : presentedUser request = .ok user)
      (registers : manager.Registers user talk (.error error)) :
      RegisterCourse manager request (gate ++ talk) (.error error)
  | answered {gate opening talk : List Turn} {refusal : AuthError} {user : NewUser} {id : UserId}
      {outcome : Except AuthError (Session × UserId)}
      (asks : Gate.Asks (Cookie.carrier? request.headers) gate (.error refusal))
      (presented : presentedUser request = .ok user)
      (registers : manager.Registers user opening (.ok id))
      (logsIn : manager.LogsIn user.credentials talk outcome) :
      RegisterCourse manager request (gate ++ (opening ++ talk))
        (outcome.map fun (session, _) => handingOut id session.token session.expiresAt)

theorem converses_register {result : Except AuthError Response}
    (converses : (register manager request).Converses turns result) :
    RegisterCourse manager request turns result := by
  rw [register_eq] at converses
  rcases Action.converses_bind_iff.mp converses with ⟨error, gate, rfl⟩ |
    ⟨gate, rest, _, rfl, passed, behind⟩
  · rcases converses_refuseLiveSession gate with ⟨identity, asks, same⟩ | ⟨refusal, -, same⟩
    · cases same
      exact .live asks
    · cases same
  rcases converses_refuseLiveSession passed with ⟨identity, -, same⟩ | ⟨refusal, asks, -⟩
  · cases same
  cases presented : presentedUser request with
  | error error =>
      rw [presented] at behind
      obtain ⟨rfl, rfl⟩ := Action.converses_throw_iff.mp behind
      exact .unfit ((List.append_nil gate).symm ▸ asks) presented
  | ok user =>
      rw [presented] at behind
      rcases Action.converses_bind_iff.mp behind with ⟨error, refused, rfl⟩ |
        ⟨opening, _, id, rfl, opened, later⟩
      · exact .unopened asks presented (Manager.converses_register refused)
      rcases Action.converses_bind_iff.mp later with ⟨error, refused, rfl⟩ |
        ⟨talk, _, ⟨session, owner⟩, rfl, issued, ended⟩
      · exact .answered asks presented (Manager.converses_register opened)
          (Manager.converses_login refused)
      · rw [Action.converses_logService_bind_iff] at ended
        obtain ⟨rfl, rfl⟩ := Action.converses_settled_iff.mp ended
        have logsIn := Manager.converses_login issued
        rw [List.append_nil, sessionResponse_of_logsIn logsIn]
        exact .answered asks presented (Manager.converses_register opened) logsIn

/-- How a request to log out goes. -/
inductive LogoutCourse (request : Request) : List Turn → Except AuthError Response → Prop where
  | refused {turns : List Turn} {error : AuthError}
      (asks : Gate.Asks (Cookie.carrier? request.headers) turns (.error error)) :
      LogoutCourse request turns (.error error)
  | failed {gate talk : List Turn} {token : String} {identity : Identity} {error : AuthError}
      (carried : Cookie.carrier? request.headers = some ⟨token, none⟩)
      (asks : Gate.Asks (Cookie.carrier? request.headers) gate (.ok identity))
      (revokes : Manager.Revokes token talk (.error error)) :
      LogoutCourse request (gate ++ talk) (.error error)
  | ended {gate talk : List Turn} {token : String} {identity : Identity} (now : Time.Instant)
      (carried : Cookie.carrier? request.headers = some ⟨token, none⟩)
      (asks : Gate.Asks (Cookie.carrier? request.headers) gate (.ok identity))
      (revokes : Manager.Revokes token talk (.ok ())) :
      LogoutCourse request (gate ++ (talk ++ [⟨.readClock, now⟩]))
        (.ok ((Response.ofStatus 204).withCookie (Octets.ofText (Cookie.headerText "" now))))

theorem converses_logout {result : Except AuthError Response}
    (converses : (logout request).Converses turns result) : LogoutCourse request turns result := by
  rw [logout] at converses
  cases carried : Cookie.carrier? request.headers with
  | none =>
      rw [carried] at converses
      obtain ⟨rfl, rfl⟩ := Action.converses_throw_iff.mp converses
      exact .refused (.nobody carried)
  | some carrier =>
      obtain ⟨token, expires⟩ := carrier
      obtain rfl : expires = none := expires_of_carrier? carried
      rw [carried] at converses
      rcases Action.converses_bind_iff.mp converses with ⟨error, gate, rfl⟩ |
        ⟨gate, _, identity, rfl, passed, behind⟩
      · rw [← carried] at gate
        exact .refused (Gate.converses_authenticate gate)
      rw [← carried] at passed
      have asks := Gate.converses_authenticate passed
      rcases Action.converses_bind_iff.mp behind with ⟨error, refused, rfl⟩ |
        ⟨talk, _, _, rfl, revoked, later⟩
      · exact .failed carried asks (Manager.converses_logout refused)
      rw [Action.converses_logService_bind_iff] at later
      obtain ⟨now, rest, rfl, cleared⟩ :=
        (Action.converses_perform_query_bind_iff .readClock rfl).mp later
      rw [settle_bind, Cookie.clear_eq] at cleared
      obtain ⟨rfl, rfl⟩ := Action.converses_pure_iff.mp cleared
      exact .ended now carried asks (Manager.converses_logout revoked)

end Http

end SessionGate
