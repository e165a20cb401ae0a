import SessionGate.Proofs.Http.Agreement
import SessionGate.Proofs.Http.Gate
import SessionGate.Proofs.World.Calls

/-!
# Strangers and callers

Logging in and opening an account are for strangers. Before anything else the gate is asked about
the caller's cookies. Whom it accepts is turned away, whatever the request says. For whom it refuses
it does not matter what the cookies were: all is as if there had been none, except that an expired
entry of the token presented may have gone.
-/

namespace SessionGate

open Time

/-- The question is about what is stored under a token. -/
def Question.isAboutEntry : Question → Bool
  | .getSession _ | .deleteSession _ => true
  | _ => false

/-- Whatever it is told, the program asks nothing about what is stored under a token. -/
def Program.AsksAside {α : Type} (program : Program α) : Prop :=
  ∀ turns value, program.Converses turns value → ∀ turn ∈ turns, turn.1.isAboutEntry = false

/-- What a program that asks aside asks first, and how it goes on. -/
theorem Program.AsksAside.of_ask {α : Type} {question : Question}
    {resume : question.Answer → Program α} (aside : (ask question resume).AsksAside)
    (answer : question.Answer) :
    question.isAboutEntry = false ∧ (resume answer).AsksAside := by
  cases log : question.isLog with
  | true =>
      cases question with
      | log event =>
          exact ⟨rfl, fun turns value later => aside turns value (.logged later)⟩
      | _ => cases log
  | false =>
      have talk := converses_transcript (Surroundings.welcoming .epoch) (resume answer) ()
      exact ⟨aside _ _ (.asked log answer talk) _ List.mem_cons_self,
        fun turns value later turn member =>
          aside _ value (.asked log answer later) turn (List.mem_cons_of_mem _ member)⟩

namespace Core

variable {left right next : Core} {gone : String → Prop} {turn : Turn} {turns : List Turn}

def without (core : Core) (token : String) : Core :=
  { core with sessions := core.sessions.erase token }

/-- The second core is the first one, or lacks an entry of it that may be gone. -/
def LacksAtMost (gone : String → Prop) (left right : Core) : Prop :=
  right = left ∨ ∃ token, gone token ∧ right = left.without token

/-- An answer about nothing that is stored does not depend on what is. -/
theorem answer_without {question : Question} (aside : question.isAboutEntry = false)
    (core : Core) (token : String) :
    ((core.without token).answer question).1 = (core.answer question).1 ∧
      (((core.without token).answer question).2 = (core.answer question).2 ∨
        ((core.without token).answer question).2 = (core.answer question).2.without token) := by
  obtain ⟨now, users, sessions, random, userStore, sessionStore⟩ := core
  cases question with
  | findUser email =>
      cases userStore with
      | failing report => exact ⟨rfl, .inr rfl⟩
      | stale | sound =>
          simp only [answer, without, World.answer, World.noted, World.reply, World.viaUserStore,
            World.findUser, Core.world, Question.isStoreCall, if_true]
          cases users.find? email <;> exact ⟨rfl, .inr rfl⟩
  | emailTaken email => cases userStore <;> exact ⟨rfl, .inr rfl⟩
  | insertUser row =>
      cases userStore with
      | failing report => exact ⟨rfl, .inr rfl⟩
      | stale | sound =>
          simp only [answer, without, World.answer, World.noted, World.reply, World.viaUserStore,
            World.insertUser, Core.world, Question.isStoreCall, if_true]
          cases users.insert row <;> exact ⟨rfl, .inr rfl⟩
  | putSession key identity lifetime =>
      cases sessionStore with
      | failing report | forgetful => exact ⟨rfl, .inr rfl⟩
      | sound =>
          simp only [answer, without, World.answer, World.noted, World.reply,
            World.viaSessionStore, World.putSession, World.setEntry, ExpiringMap.set, Core.world,
            Question.isStoreCall, if_true]
          cases key.isEmpty with
          | true => exact ⟨rfl, .inr rfl⟩
          | false =>
              cases ExpiringMap.expiry now (some lifetime) with
              | error error => exact ⟨rfl, .inr rfl⟩
              | ok expires =>
                  refine ⟨rfl, ?_⟩
                  by_cases same : key = token
                  · subst same
                    exact .inl (congrArg (Core.mk now users · random userStore .sound)
                      (sessions.insert_erase key _))
                  · exact .inr (congrArg (Core.mk now users · random userStore .sound)
                      (sessions.insert_erase_of_ne _ same))
  | getSession _ | deleteSession _ => cases aside
  | readClock | drawSalt | drawToken | log event => exact ⟨rfl, .inr rfl⟩

/-- Cores that differ in one entry at most answer alike what is not about entries. -/
theorem LacksAtMost.answer (lacks : LacksAtMost gone left right) {question : Question}
    (aside : question.isAboutEntry = false) :
    (right.answer question).1 = (left.answer question).1 ∧
      LacksAtMost gone (left.answer question).2 (right.answer question).2 := by
  rcases lacks with rfl | ⟨token, lost, rfl⟩
  · exact ⟨rfl, .inl rfl⟩
  · obtain ⟨same, after⟩ := answer_without aside left token
    exact ⟨same, after.imp_right fun still => ⟨token, lost, still⟩⟩

theorem LacksAtMost.exists_takes (lacks : LacksAtMost gone left right)
    (aside : turn.1.isAboutEntry = false) (takes : right.Takes turn next) :
    ∃ bare, left.Takes turn bare ∧ LacksAtMost gone bare next := by
  cases takes with
  | answered question =>
      obtain ⟨same, after⟩ := lacks.answer aside
      exact ⟨_, same ▸ .answered left question, after⟩
  | failed failed => exact ⟨left, .failed failed, lacks⟩

theorem LacksAtMost.exists_follows (lacks : LacksAtMost gone left right)
    (aside : ∀ turn ∈ turns, turn.1.isAboutEntry = false) (follows : right.Follows turns next) :
    ∃ bare, left.Follows turns bare ∧ LacksAtMost gone bare next := by
  induction follows generalizing left with
  | nil core => exact ⟨left, .nil left, lacks⟩
  | cons takes _ ih =>
      obtain ⟨middle, taken, still⟩ := lacks.exists_takes (aside _ List.mem_cons_self) takes
      obtain ⟨bare, later, final⟩ :=
        ih still fun turn member => aside turn (List.mem_cons_of_mem _ member)
      exact ⟨bare, .cons taken later, final⟩

theorem LacksAtMost.run {α : Type} {program : Program α} (lacks : LacksAtMost gone left right)
    (aside : program.AsksAside) :
    (right.run program).1 = (left.run program).1 ∧
      LacksAtMost gone (left.run program).2 (right.run program).2 := by
  induction program generalizing left right with
  | done value => exact ⟨rfl, lacks⟩
  | ask question resume ih =>
      obtain ⟨here, later⟩ := aside.of_ask (left.answer question).1
      obtain ⟨same, after⟩ := lacks.answer here
      rw [Core.run, Core.run, Program.run_ask, Program.run_ask, same]
      exact ih _ after later

end Core

/-! ## What is asked of strangers -/

theorem IsOrderly.aside {α : Type} {order : List Question.Kind} {turns : List Turn}
    {result : Except AuthError α} (orderly : IsOrderly order turns result)
    (noGet : .getSession ∉ order) (noDelete : .deleteSession ∉ order) :
    ∀ turn ∈ turns, turn.1.isAboutEntry = false := by
  intro turn member
  have listed : turn.1.kind ∈ order :=
    orderly.inOrder.subset (List.mem_map_of_mem member)
  obtain ⟨question, answer⟩ := turn
  cases question with
  | getSession token => exact absurd listed noGet
  | deleteSession token => exact absurd listed noDelete
  | _ => rfl

namespace Http

variable {manager : Manager} {request : Request} {turns : List Turn} {core : Core}

/-- The request without its cookies. -/
def Request.withoutCookies (request : Request) : Request :=
  { request with headers := request.headers.filter fun header => header.name.toLower != "cookie" }

theorem valuesOf_filter {name dropped : String} (other : name ≠ dropped) (headers : List Header) :
    valuesOf name (headers.filter fun header => header.name.toLower != dropped) =
      valuesOf name headers := by
  simp only [valuesOf, List.filter_filter]
  congr 2
  funext header
  by_cases named : header.name.toLower = name <;> simp [named, other]

theorem valuesOf_withoutCookies {name : String} (other : name ≠ "cookie") (request : Request) :
    valuesOf name request.withoutCookies.headers = valuesOf name request.headers :=
  valuesOf_filter other request.headers

theorem carrier?_withoutCookies (request : Request) :
    Cookie.carrier? request.withoutCookies.headers = none := by
  have noCookies : valuesOf "cookie" request.withoutCookies.headers = [] := by
    simp [valuesOf, Request.withoutCookies, List.filter_filter]
  rw [Cookie.carrier?, Cookie.allParts, noCookies]
  rfl

/-- Cookies take no part in what the body of a request says. -/
theorem readBody_withoutCookies {α : Type} (reader : Json.Reader α) (request : Request) :
    readBody reader request.withoutCookies = readBody reader request := by
  have same := @valuesOf_withoutCookies "content-type" (by decide) request
  have isJson : Body.isJson request.withoutCookies = Body.isJson request := by
    rw [Body.isJson, Body.isJson, same]
  rw [readBody, readBody, Body.read, Body.read, isJson]
  rfl

theorem presentedCredentials_withoutCookies (request : Request) :
    presentedCredentials request.withoutCookies = presentedCredentials request := by
  rw [presentedCredentials, presentedCredentials, readBody_withoutCookies]

theorem presentedUser_withoutCookies (request : Request) :
    presentedUser request.withoutCookies = presentedUser request := by
  rw [presentedUser, presentedUser, readBody_withoutCookies]

/-- The answer to a request for strangers once the caller is known to be one. -/
def strangerAnswer (request : Request) (next : Action Response) : Program Response := do
  Router.finish true request (← respond next)

/-- The answer to a request for strangers. -/
def guardedAnswer (request : Request) (next : Action Response) : Program Response := do
  match ← (refuseLiveSession request.headers).run with
  | .ok _ => strangerAnswer request next
  | .error error => Router.finish true request (← failure error)

theorem respond_bind {α : Type} (action : Action α) (next : α → Action Response) :
    respond (action >>= next) = (do
      match ← action.run with
      | .ok value => respond (next value)
      | .error error => failure error) := by
  change ((action.run >>= ExceptT.bindCont next : Program (Except AuthError Response)) >>= _) = _
  rw [bind_assoc]
  refine congrArg (action.run >>= ·) (funext fun outcome => ?_)
  cases outcome <;> rfl

/-- What is posted to an entry point that refuses live sessions is answered to strangers. -/
theorem answer_eq_guardedAnswer {router : Router} {route : Route} {next : Action Response}
    (found : router.routes.find? (·.accepts request.path) = some route)
    (ungated : route.isGated = false) (logged : route.isLogged = true)
    (method : route.method = .post) (posted : request.method = "POST")
    (handled : route.handler manager request none =
      refuseLiveSession request.headers >>= fun _ => next) :
    router.answer manager request = guardedAnswer request next := by
  have admitted : route.method.admits request.method = true := by
    rw [method, posted]
    rfl
  have complete (response : Response) : route.complete request response = response :=
    Core.complete_of_post method posted response
  rw [Router.answer, found]
  simp only [Route.answer, Route.throughGate, ungated, Bool.false_eq_true, if_false,
    Route.dispatch, admitted, if_true, handled, respond_bind, complete, logged, bind_assoc,
    pure_bind]
  refine congrArg ((refuseLiveSession request.headers).run >>= ·) (funext fun outcome => ?_)
  cases outcome <;> rfl

theorem answer_login_eq (posts : request.Posts "/login") (more : List Route) (manager : Manager) :
    (Router.withGated more).answer manager request =
      guardedAnswer request (match presentedCredentials request with
        | .ok credentials => loginWith manager credentials
        | .error error => throw error) :=
  answer_eq_guardedAnswer (posts.2 ▸ find?_login more) rfl rfl rfl posts.1
    (login_eq manager request)

theorem answer_register_eq (posts : request.Posts "/register") (more : List Route)
    (manager : Manager) :
    (Router.withGated more).answer manager request =
      guardedAnswer request (match presentedUser request with
        | .ok user => registerWith manager user
        | .error error => throw error) :=
  answer_eq_guardedAnswer (posts.2 ▸ find?_register more) rfl rfl rfl posts.1
    (register_eq manager request)

/-- The request is posted to an entry point for strangers. -/
def Request.IsForStrangers (request : Request) : Prop :=
  request.Posts "/login" ∨ request.Posts "/register"

/-- The answers to a request for strangers with its cookies and without differ in nothing but what
the gate is asked. -/
theorem exists_answer_eq (posts : request.IsForStrangers) (more : List Route)
    (manager : Manager) :
    ∃ next, (Router.withGated more).answer manager request = guardedAnswer request next ∧
      (Router.withGated more).answer manager request.withoutCookies =
        guardedAnswer request.withoutCookies next := by
  rcases posts with posts | posts
  · have still : request.withoutCookies.Posts "/login" := posts
    refine ⟨_, answer_login_eq posts more manager, ?_⟩
    rw [answer_login_eq still, presentedCredentials_withoutCookies]
  · have still : request.withoutCookies.Posts "/register" := posts
    refine ⟨_, answer_register_eq posts more manager, ?_⟩
    rw [answer_register_eq still, presentedUser_withoutCookies]

theorem run_guardedAnswer (request : Request) (next : Action Response) (core : Core) :
    core.run (guardedAnswer request next) =
      match core.attempt (Gate.authenticate (Cookie.carrier? request.headers)) with
      | (.ok _, core) => (failureResponse .unauthorized, core)
      | (.error _, core) => core.run (strangerAnswer request next) := by
  rw [guardedAnswer, Core.run_bind, Core.run_run, Core.attempt_refuseLiveSession]
  rcases core.attempt (Gate.authenticate (Cookie.carrier? request.headers)) with
    ⟨error | identity, asked⟩
  · rfl
  · dsimp only
    rw [Core.run_bind, Core.run_failure, Core.run_finish]

/-- Whom the gate accepts is turned away; with whom it refuses the conversation goes on. -/
theorem converses_guardedAnswer {next : Action Response} {response : Response}
    (converses : (guardedAnswer request next).Converses turns response) :
    (∃ identity, Gate.Asks (Cookie.carrier? request.headers) turns (.ok identity) ∧
        response = failureResponse .unauthorized) ∨
      ∃ gate rest error, turns = gate ++ rest ∧
        Gate.Asks (Cookie.carrier? request.headers) gate (.error error) ∧
        (strangerAnswer request next).Converses rest response := by
  obtain ⟨gate, rest, outcome, rfl, refuses, behind⟩ := Program.converses_bind_iff.mp converses
  rcases converses_refuseLiveSession refuses with ⟨identity, asks, rfl⟩ | ⟨error, asks, rfl⟩
  · obtain ⟨_, _, _, rfl, failed, finished⟩ := Program.converses_bind_iff.mp behind
    obtain ⟨rfl, rfl⟩ := converses_failure failed
    obtain ⟨rfl, rfl⟩ := converses_finish finished
    exact .inl ⟨identity, by simpa using asks, rfl⟩
  · exact .inr ⟨gate, rest, error, rfl, asks, behind⟩

/-- A caller without cookies is a stranger. -/
theorem converses_guardedAnswer_of_nobody {next : Action Response} {response : Response}
    (nobody : Cookie.carrier? request.headers = none)
    (converses : (strangerAnswer request next).Converses turns response) :
    (guardedAnswer request next).Converses turns response := by
  refine Program.converses_bind_iff.mpr ⟨[], turns, .ok (), rfl, ?_, converses⟩
  rw [refuseLiveSession, nobody]
  exact .logged (.done _)

/-- Nothing that a stranger's request comes to is about what is stored under a token. -/
theorem asksAside_strangerAnswer (posts : request.IsForStrangers) {more : List Route}
    {next : Action Response}
    (bare : (Router.withGated more).answer manager request.withoutCookies =
      guardedAnswer request.withoutCookies next) :
    (strangerAnswer request next).AsksAside := by
  have nobody := carrier?_withoutCookies request
  intro turns response converses
  have answered : ((Router.withGated more).answer manager request.withoutCookies).Converses turns
      response := bare ▸ converses_guardedAnswer_of_nobody nobody converses
  have silent {gate : List Turn} {result : Except AuthError Identity}
      (asks : Gate.Asks (Cookie.carrier? request.withoutCookies.headers) gate result) :
      gate = [] := Gate.Asks.eq_nil (nobody ▸ asks)
  have login {credentials : Credentials} {talk : List Turn}
      {outcome : Except AuthError (Session × UserId)}
      (logsIn : manager.LogsIn credentials talk outcome) :
      ∀ turn ∈ talk, turn.1.isAboutEntry = false :=
    logsIn.isOrderly.aside (by decide) (by decide)
  have opening {user : NewUser} {talk : List Turn} {outcome : Except AuthError UserId}
      (registers : manager.Registers user talk outcome) :
      ∀ turn ∈ talk, turn.1.isAboutEntry = false :=
    registers.isOrderly.aside (by decide) (by decide)
  rcases posts with posts | posts
  · have still : request.withoutCookies.Posts "/login" := posts
    obtain ⟨result, course, -⟩ := converses_answer_login still answered
    cases course with
    | live asks | unfit asks => simp [silent asks]
    | answered asks _ logsIn =>
        rw [silent asks]
        exact login logsIn
  · have still : request.withoutCookies.Posts "/register" := posts
    obtain ⟨result, course, -⟩ := converses_answer_register still answered
    cases course with
    | live asks | unfit asks => simp [silent asks]
    | unopened asks _ registers =>
        rw [silent asks]
        exact opening registers
    | answered asks _ registers logsIn =>
        rw [silent asks, List.nil_append]
        intro turn member
        rcases List.mem_append.mp member with first | second
        · exact opening registers turn first
        · exact login logsIn turn second

/-! ## What asking the gate leaves -/

/-- The caller has presented the token of an entry that has expired. -/
def PresentsExpired (core : Core) (caller : Option Carrier) (token : String) : Prop :=
  ∃ carrier entry, caller = some carrier ∧ carrier.token = token ∧
    core.sessions.find? token = some entry ∧ entry.isExpired core.now = true

theorem lacksAtMost_authenticate (headers : List Header) (world : World) :
    Core.LacksAtMost (PresentsExpired world.core (Cookie.carrier? headers)) world.core
      (world.core.attempt (Gate.authenticate (Cookie.carrier? headers))).2 := by
  obtain ⟨sessions, asked, same⟩ := authenticate_snd world headers
  rw [same]
  rcases asked with rfl | ⟨carrier, entry, carried, found, expired, rfl⟩
  · exact .inl rfl
  · exact .inr ⟨carrier.token, ⟨carrier, entry, carried, rfl, found, expired⟩, rfl⟩

/-- A look-up removes an expired entry at most, also from a store that may fail. -/
theorem lacksAtMost_of_takes_get {after : Core} {token : String}
    {answer : Except AuthError Identity}
    (notBlank : token.isEmpty = false) (takes : core.Takes ⟨.getSession token, answer⟩ after) :
    Core.LacksAtMost (PresentsExpired core (some ⟨token, none⟩)) core after := by
  cases takes with
  | failed failed => exact .inl rfl
  | answered =>
      rw [Core.answer_getSession notBlank, Core.lookUp]
      obtain ⟨now, users, sessions, random, userStore, sessionStore⟩ := core
      cases sessionStore with
      | failing report | forgetful => exact .inl rfl
      | sound =>
          dsimp only
          rcases sessions.get_snd now token with same | ⟨entry, found, expired, same⟩
          · rw [same]
            exact .inl rfl
          · rw [same]
            exact .inr ⟨token, ⟨_, entry, rfl, rfl, found, expired⟩, rfl⟩

theorem lacksAtMost_of_follows_asks {caller : Option Carrier} {after : Core}
    {result : Except AuthError Identity} (asks : Gate.Asks caller turns result)
    (follows : core.Follows turns after) :
    Core.LacksAtMost (PresentsExpired core caller) core after := by
  cases asks with
  | nobody missing =>
      cases follows
      exact .inl rfl
  | somebody carried resolves =>
      cases resolves with
      | blank blank =>
          cases follows
          exact .inl rfl
      | asked notBlank =>
          rw [carried]
          exact lacksAtMost_of_takes_get notBlank (Core.follows_singleton_iff.mp follows)

/-- Whom the gate accepts, it accepts without a change to anything. -/
theorem eq_of_follows_asks {caller : Option Carrier} {after : Core} {identity : Identity}
    (asks : Gate.Asks caller turns (.ok identity)) (follows : core.Follows turns after) :
    after = core := by
  obtain ⟨token, -, notBlank, rfl, somebody⟩ := asks.eq_of_ok rfl
  have answered := (Core.follows_singleton_iff.mp follows).answer_eq rfl
  rw [Core.answer_getSession notBlank, Core.lookUp] at answered
  obtain ⟨now, users, sessions, random, userStore, sessionStore⟩ := core
  cases sessionStore with
  | failing report => cases answered
  | forgetful => exact (Prod.mk.inj answered).2.symm
  | sound =>
      obtain ⟨known, rfl⟩ := Prod.mk.inj answered
      cases live : sessions.live? now token with
      | none =>
          rw [ExpiringMap.get_fst, live] at known
          cases known
      | some entry => rw [ExpiringMap.get_snd_of_live? live]

/-! ## Calls on behalf of a caller who is turned away -/

theorem attemptCalls_authenticate_of_ok {headers : List Header} {identity : Identity}
    (accepted : (core.attempt (Gate.authenticate (Cookie.carrier? headers))).1 = .ok identity) :
    ∃ token, Cookie.carrier? headers = some ⟨token, none⟩ ∧
      core.attemptCalls (Gate.authenticate (Cookie.carrier? headers)) = [.getSession token] := by
  have converses :=
    (Gate.authenticate (Cookie.carrier? headers)).converses_transcript Core.answer core
  obtain ⟨token, carried, -, turns, -⟩ := (Gate.converses_authenticate converses).eq_of_ok accepted
  refine ⟨token, carried, ?_⟩
  rw [Core.attemptCalls_eq_transcript, turns]
  rfl

theorem runCalls_guardedAnswer_of_ok {identity : Identity} {after : Core}
    (accepted : core.attempt (Gate.authenticate (Cookie.carrier? request.headers)) =
      (.ok identity, after)) (next : Action Response) :
    core.runCalls (guardedAnswer request next) =
      core.attemptCalls (Gate.authenticate (Cookie.carrier? request.headers)) := by
  have refusing : core.attemptCalls (refuseLiveSession request.headers) =
      core.attemptCalls (Gate.authenticate (Cookie.carrier? request.headers)) := by
    rw [refuseLiveSession, Core.attemptCalls_bind, Core.attemptCalls_perform,
      Core.attempt_perform, Core.run_run, accepted]
    exact List.append_nil _
  have refused : core.run (refuseLiveSession request.headers).run =
      (.error .unauthorized, after) := by
    rw [Core.run_run, Core.attempt_refuseLiveSession, accepted]
  rw [guardedAnswer, Core.runCalls_bind, refused]
  exact (List.append_nil _).trans refusing

/-! ## With cookies and without -/

end Http

namespace World

open Http

variable {world : World} {router : Router} {manager : Manager} {request : Request}

/-- The request comes to the same with its cookies and without: the same response, the same accounts
and the same draws. The sessions are the same too, except that an expired entry of the token
presented may have gone. -/
structure IgnoresCookies (world : World) (router : Router) (manager : Manager)
    (request : Request) : Prop where
  response : (world.run (router.answer manager request)).1 =
    (world.run (router.answer manager request.withoutCookies)).1
  users : (world.run (router.answer manager request)).2.users =
    (world.run (router.answer manager request.withoutCookies)).2.users
  rest : Core.LacksAtMost (PresentsExpired world.core (Cookie.carrier? request.headers))
    (world.run (router.answer manager request.withoutCookies)).2.core
    (world.run (router.answer manager request)).2.core

/-- The caller is told to authorize, after a single look-up, and nothing changes. -/
structure TurnsAway (world : World) (router : Router) (manager : Manager) (request : Request) :
    Prop where
  response : (world.run (router.answer manager request)).1 = failureResponse .unauthorized
  status : (world.run (router.answer manager request)).1.status = 401
  calls : ∃ token, Cookie.carrier? request.headers = some ⟨token, none⟩ ∧
    (world.run (router.answer manager request)).2.calls = world.calls ++ [.getSession token]
  core : (world.run (router.answer manager request)).2.core = world.core

theorem ignoresCookies {more : List Route} {error : AuthError} (posts : request.IsForStrangers)
    (refused : (world.attempt (Gate.authenticate (Cookie.carrier? request.headers))).1 =
      .error error) : world.IgnoresCookies (.withGated more) manager request := by
  obtain ⟨next, full, bare⟩ := exists_answer_eq posts more manager
  have asked := lacksAtMost_authenticate request.headers world
  have outcome : (world.core.attempt (Gate.authenticate (Cookie.carrier? request.headers))).1 =
      .error error := by rwa [attempt_core]
  -- Both requests go on with the same program, one of them after the gate has looked.
  obtain ⟨same, after⟩ := asked.run (asksAside_strangerAnswer posts bare)
  have withCookies : world.core.run ((Router.withGated more).answer manager request) =
      (world.core.attempt (Gate.authenticate (Cookie.carrier? request.headers))).2.run
        (strangerAnswer request next) := by
    rw [full, run_guardedAnswer]
    rcases gate : world.core.attempt (Gate.authenticate (Cookie.carrier? request.headers)) with
      ⟨known, left⟩
    rw [gate] at outcome
    obtain rfl : known = .error error := outcome
    rfl
  have without : world.core.run ((Router.withGated more).answer manager request.withoutCookies) =
      world.core.run (strangerAnswer request next) := by
    rw [bare, run_guardedAnswer, carrier?_withoutCookies]
    rfl
  rw [← withCookies, ← without] at same after
  rw [run_core, run_core] at same after
  refine ⟨same, ?_, after⟩
  rcases after with equal | ⟨token, -, lacks⟩
  · exact congrArg Core.users equal
  · exact congrArg Core.users lacks

theorem turnsAway {more : List Route} {identity : Identity} (posts : request.IsForStrangers)
    (accepted : (world.attempt (Gate.authenticate (Cookie.carrier? request.headers))).1 =
      .ok identity) : world.TurnsAway (.withGated more) manager request := by
  obtain ⟨next, full, -⟩ := exists_answer_eq posts more manager
  have outcome : (world.core.attempt (Gate.authenticate (Cookie.carrier? request.headers))).1 =
      .ok identity := by rwa [attempt_core]
  have unchanged := authenticate_snd_of_ok
    ((authenticate_fst world request.headers).symm.trans outcome)
  have asked : world.core.attempt (Gate.authenticate (Cookie.carrier? request.headers)) =
      (.ok identity, world.core) := Prod.ext outcome unchanged
  have answered : world.core.run ((Router.withGated more).answer manager request) =
      (failureResponse .unauthorized, world.core) := by
    rw [full, run_guardedAnswer, asked]
  rw [run_core] at answered
  obtain ⟨response, core⟩ := Prod.mk.inj answered
  obtain ⟨token, carried, calls⟩ := attemptCalls_authenticate_of_ok outcome
  refine ⟨response, by rw [response]; rfl, ⟨token, carried, ?_⟩, core⟩
  rw [calls_run, full, runCalls_guardedAnswer_of_ok asked, calls]

end World

namespace Http

variable {manager : Manager} {request : Request}

/-- To log in and to open an account cookies matter only if the gate accepts them, and then nothing
else does: with stores in any condition, and whichever questions stores fail on the way. -/
theorem cookies_of_strangers (posts : request.IsForStrangers) (more : List Route)
    (manager : Manager) :
    (∀ world error, (World.attempt (Gate.authenticate (Cookie.carrier? request.headers)) world).1 =
        .error error → world.IgnoresCookies (.withGated more) manager request) ∧
    (∀ world identity,
      (World.attempt (Gate.authenticate (Cookie.carrier? request.headers)) world).1 =
        .ok identity → world.TurnsAway (.withGated more) manager request) ∧
    ∀ turns response, ((Router.withGated more).answer manager request).Converses turns response →
      (∃ gate rest error, turns = gate ++ rest ∧
        Gate.Asks (Cookie.carrier? request.headers) gate (.error error) ∧
        ((Router.withGated more).answer manager request.withoutCookies).Converses rest response ∧
        ∀ core after, Core.Follows core turns after → ∃ bare, core.Follows rest bare ∧
          Core.LacksAtMost (PresentsExpired core (Cookie.carrier? request.headers)) bare after) ∨
      ∃ identity, Gate.Asks (Cookie.carrier? request.headers) turns (.ok identity) ∧
        response = failureResponse .unauthorized ∧
        ∀ core after, Core.Follows core turns after → after = core := by
  refine ⟨fun world error => World.ignoresCookies posts,
    fun world identity => World.turnsAway posts, fun turns response converses => ?_⟩
  obtain ⟨next, full, bare⟩ := exists_answer_eq posts more manager
  rw [full] at converses
  rcases converses_guardedAnswer converses with ⟨identity, asks, rfl⟩ |
    ⟨gate, rest, error, rfl, asks, goesOn⟩
  · exact .inr ⟨identity, asks, rfl, fun core after => eq_of_follows_asks asks⟩
  · refine .inl ⟨gate, rest, error, rfl, asks, ?_, fun core after follows => ?_⟩
    · rw [bare]
      exact converses_guardedAnswer_of_nobody (carrier?_withoutCookies request) goesOn
    · obtain ⟨asked, first, second⟩ := follows.split
      exact (lacksAtMost_of_follows_asks asks first).exists_follows
        (asksAside_strangerAnswer posts bare rest response goesOn) second

/-- A request of the owner to log in, with a cookie. -/
def cookieRequest : Request :=
  { loginRequest with
    headers := ⟨"Cookie", Octets.ofText "session_token=t"⟩ :: loginRequest.headers }

/-- A cookie that says nothing makes no difference to the owner's login. With a live session the
owner is turned away. -/
theorem cookie_of_owner :
    (ownersWorld .epoch).IgnoresCookies .standard .cheap cookieRequest ∧
      World.TurnsAway { ownersWorld .epoch with
        sessions := .insert .empty "t" ⟨Identity.encode ⟨1, .user⟩, none⟩ }
          .standard .cheap cookieRequest := by
  have carried : Cookie.carrier? cookieRequest.headers = some ⟨"t", none⟩ := by decide +kernel
  have posts : cookieRequest.IsForStrangers := .inl ⟨rfl, rfl⟩
  obtain ⟨ignored, refused, -⟩ := cookies_of_strangers posts [] .cheap
  have verdict (world : World) :
      (world.attempt (Gate.authenticate (Cookie.carrier? cookieRequest.headers))).1 =
        world.verdict (some ⟨"t", none⟩) := by
    rw [← carried, ← authenticate_fst, World.attempt_core]
  constructor
  · apply ignored _ .notFound
    rw [verdict]
    rfl
  · apply refused _ ⟨1, .user⟩
    have live (now : Instant) : (ExpiringMap.insert .empty "t"
        ⟨Identity.encode ⟨1, .user⟩, none⟩).live? now "t" =
          some ⟨Identity.encode ⟨1, .user⟩, none⟩ := rfl
    have sound : (ownersWorld .epoch).sessionStore = .sound :=
      (ownersWorld_isReachable .epoch).isRegular.sound.sessions
    simp only [verdict, World.verdict, sound, live, Identity.decode_encode]
    rfl

end Http

end SessionGate
