import SessionGate.Http.Router
import SessionGate.Proofs.World.Core

/-!
# Running the entry points

What surrounds a handler logs, but leaves no trace in the core: the response of a failure, the
completion of a response and the event of an answered request.
-/

namespace SessionGate

/-- What a caller is told about a failure. -/
def Http.failureResponse (error : AuthError) : Http.Response :=
  .ofJson error.status (Json.writeObject [("err", Json.writeText error.message)])

namespace Http

theorem complete_status (route : Route) (request : Request) (response : Response) :
    (route.complete request response).status = response.status := by
  rw [Route.complete]
  split <;> split <;> rfl

theorem complete_setCookie (route : Route) (request : Request) (response : Response) :
    (route.complete request response).setCookie = response.setCookie := by
  rw [Route.complete]
  split <;> split <;> rfl

end Http

namespace Core

open Http

variable {α : Type}

@[simp]
theorem attempt_settle (outcome : Except AuthError α) (core : Core) :
    core.attempt (settle outcome) = (outcome, core) :=
  rfl

theorem run_run (action : Action α) (core : Core) : core.run action.run = core.attempt action :=
  rfl

@[simp]
theorem run_failure (error : AuthError) (core : Core) :
    core.run (Http.failure error) = (failureResponse error, core) := by
  rw [Http.failure]
  cases error.isServerFailure <;> rfl

theorem run_respond (action : Action Response) (core : Core) :
    core.run (respond action) =
      match core.attempt action with
      | (.ok response, core) => (response, core)
      | (.error error, core) => core.run (Http.failure error) := by
  rw [respond, run_bind, run_run]
  rcases core.attempt action with ⟨error | response, after⟩
  · rfl
  · rfl

theorem run_respond_snd (action : Action Response) (core : Core) :
    (core.run (respond action)).2 = (core.attempt action).2 := by
  rw [run_respond]
  rcases core.attempt action with ⟨error | response, after⟩
  · simp only [run_failure]
  · rfl

theorem run_finish (isLogged : Bool) (request : Request) (response : Response) (core : Core) :
    core.run (Router.finish isLogged request response) = (response, core) := by
  cases isLogged <;> rfl

theorem run_routeAnswer (route : Route) (manager : Manager) (request : Request) (core : Core) :
    core.run (route.answer manager request) =
      (route.complete request (core.run (route.throughGate manager request)).1,
        (core.run (route.throughGate manager request)).2) := by
  rw [Route.answer, run_bind]
  rfl

theorem run_answer_of_find? {router : Router} {request : Request} {route : Route}
    (found : router.routes.find? (·.accepts request.path) = some route) (manager : Manager)
    (core : Core) :
    core.run (router.answer manager request) = core.run (route.answer manager request) := by
  rw [Router.answer, found]
  change core.run (route.answer manager request >>= Router.finish route.isLogged request) = _
  rw [run_bind, run_finish]

theorem run_answer_of_find?_none {router : Router} {request : Request}
    (missing : router.routes.find? (·.accepts request.path) = none) (manager : Manager)
    (core : Core) :
    core.run (router.answer manager request) = (Response.ofStatus 404, core) := by
  rw [Router.answer, missing]
  exact run_finish _ _ _ _

/-- A handler answers a request whose method its route answers, and no other. -/
theorem run_dispatch (route : Route) (manager : Manager) (request : Request)
    (identity : Option Identity) (core : Core) :
    core.run (route.dispatch manager request identity) =
      if route.method.admits request.method then
        core.run (respond (route.handler manager request identity))
      else (Response.ofStatus 405, core) := by
  rw [Route.dispatch]
  cases route.method.admits request.method <;> rfl

/-- A gated route asks the gate first, for every method. -/
theorem run_throughGate_of_isGated {route : Route} (gated : route.isGated = true)
    (manager : Manager) (request : Request) (core : Core) :
    core.run (route.throughGate manager request) =
      match core.attempt (Gate.authenticate (Cookie.carrier? request.headers)) with
      | (.error error, core) => core.run (Http.failure error)
      | (.ok identity, core) => core.run (route.dispatch manager request (some identity)) := by
  rw [Route.throughGate, gated, if_pos rfl, run_bind, run_run]
  rcases core.attempt (Gate.authenticate (Cookie.carrier? request.headers)) with
    ⟨error | identity, after⟩
  · rfl
  · rfl

theorem run_throughGate_of_not_isGated {route : Route} (ungated : route.isGated = false)
    (manager : Manager) (request : Request) (core : Core) :
    core.run (route.throughGate manager request) =
      core.run (route.dispatch manager request none) := by
  rw [Route.throughGate, ungated]
  rfl

/-- Only a caller with a live session is refused. -/
theorem attempt_refuseLiveSession (headers : List Header) (core : Core) :
    core.attempt (refuseLiveSession headers) =
      match core.attempt (Gate.authenticate (Cookie.carrier? headers)) with
      | (.ok _, core) => (.error .unauthorized, core)
      | (.error _, core) => (.ok (), core) := by
  rw [refuseLiveSession, attempt_bind, attempt_perform, run_run]
  rcases core.attempt (Gate.authenticate (Cookie.carrier? headers)) with ⟨error | identity, after⟩
  · dsimp only
    cases error.isServerFailure <;> rfl
  · rfl

end Core

end SessionGate
