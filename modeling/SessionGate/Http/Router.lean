import SessionGate.Http.Handlers

/-!
# Routes

A route answers one path, or all paths of a shape, with one method. A gated route resolves the
carrier first, even for a method that it does not answer; what its handler does depends on the
identity found. Paths match letter by letter. Every request is logged once it has been answered.
-/

namespace SessionGate.Http

/-- A part of a path: a fixed text, or anything but nothing. -/
inductive Segment where
  | literal (text : String)
  | anything
  deriving DecidableEq, Repr

def Segment.accepts : Segment → List Char → Bool
  | .literal text, part => part == text.toList
  | .anything, part => !part.isEmpty

/-- Whether the parts of a path have the forms of the segments. -/
def segmentsAccept : List Segment → List (List Char) → Bool
  | [], [] => true
  | segment :: segments, part :: parts => segment.accepts part && segmentsAccept segments parts
  | _, _ => false

/-- The method that a route answers. A route that answers reading requests answers those for the
head of a response too. -/
inductive RouteMethod where
  | get
  | post
  deriving DecidableEq, Repr

namespace RouteMethod

def admits : RouteMethod → String → Bool
  | .get, method => method == "GET" || method == "HEAD"
  | .post, method => method == "POST"

/-- The methods that are answered, as a header names them. -/
def allowed : RouteMethod → String
  | .get => "GET,HEAD"
  | .post => "POST"

end RouteMethod

/-- What answers a request: it is given the identity that the gate has found, if the route has a
gate. -/
abbrev Handler := Manager → Request → Option Identity → Action Response

namespace Handler

/-- A handler for callers of all kinds. -/
def ofAnyone (answer : Manager → Request → Action Response) : Handler :=
  fun manager request _ => answer manager request

/-- A handler that needs an identity, and refuses where no gate has found one. -/
def ofIdentity (answer : Identity → Action Response) : Handler := fun _ _ identity => do
  match identity with
  | none => throw .unauthorized
  | some identity => answer identity

end Handler

structure Route where
  segments : List Segment
  method : RouteMethod
  handler : Handler
  isGated : Bool
  isLogged : Bool

namespace Route

/-- Whether the route answers a path. The first part of a path is empty. -/
def accepts (route : Route) (path : String) : Bool :=
  match path.toList.splitOn '/' with
  | [] :: parts => segmentsAccept route.segments parts
  | _ => false

/-- Answer the request's method, or say which methods there are. -/
def dispatch (route : Route) (manager : Manager) (request : Request)
    (identity : Option Identity) : Program Response :=
  if route.method.admits request.method then
    respond (route.handler manager request identity)
  else
    return Response.ofStatus 405

/-- Answer behind the gate, if there is one. -/
def throughGate (route : Route) (manager : Manager) (request : Request) : Program Response := do
  if route.isGated then
    match ← (Gate.authenticate (Cookie.carrier? request.headers)).run with
    | .error error => failure error
    | .ok identity => route.dispatch manager request (some identity)
  else
    route.dispatch manager request none

/-- Complete a response: methods are named where the request's is not answered, and a request
for the head gets no body. -/
def complete (route : Route) (request : Request) (response : Response) : Response :=
  let response :=
    if route.method.admits request.method then response
    else { response with allow := some route.method.allowed }
  if request.method == "HEAD" then { response with body := "" } else response

def answer (route : Route) (manager : Manager) (request : Request) : Program Response := do
  let response ← route.throughGate manager request
  return route.complete request response

end Route

/-- The event of an answered request. -/
def accessEvent (request : Request) (response : Response) : Event :=
  ⟨.info, .access, "request",
    [("method", request.method), ("path", request.path),
      ("status", Decimal.text response.status)]⟩

/-- Routes, and whether requests that no route answers are logged. -/
structure Router where
  routes : List Route
  logsMisses : Bool

namespace Router

/-- The entry points that need no session. -/
def entryPoints : List Route :=
  [⟨[.literal "login"], .post, .ofAnyone login, false, true⟩,
    ⟨[.literal "register"], .post, .ofAnyone register, false, true⟩,
    ⟨[.literal "logout"], .post, .ofAnyone fun _ request => logout request, false, true⟩,
    ⟨[.literal "check"], .post, .ofAnyone fun _ _ => check, false, true⟩]

/-- A route behind the gate, under the common start of all gated paths. -/
def gatedRoute (segments : List Segment) (method : RouteMethod) (handler : Handler) : Route :=
  ⟨.literal "api" :: .literal "v1" :: segments, method, handler, true, true⟩

/-- The gated routes that every service has. -/
def standardGated : List Route :=
  [gatedRoute [.literal "session"] .get (.ofIdentity currentSession),
    gatedRoute [.literal "moderation"] .get (.ofIdentity moderation)]

/-- The router of a service with more gated routes of its own. -/
def withGated (more : List Route) : Router :=
  ⟨entryPoints ++ standardGated ++ more, true⟩

def standard : Router :=
  withGated []

/-- Routes outside the service: neither gated nor logged. -/
def outside (segments : List Segment) (method : RouteMethod) (handler : Handler) : Router :=
  ⟨[⟨segments, method, handler, false, false⟩], false⟩

/-- All routes of two routers. Requests that none answers are treated as by the second. -/
def merge (first second : Router) : Router :=
  ⟨first.routes ++ second.routes, second.logsMisses⟩

/-- Log an answered request, where it is to be logged. -/
def finish (isLogged : Bool) (request : Request) (response : Response) : Program Response := do
  if isLogged then
    Program.query (.log (accessEvent request response))
  return response

def answer (router : Router) (manager : Manager) (request : Request) : Program Response := do
  match router.routes.find? (·.accepts request.path) with
  | some route => finish route.isLogged request (← route.answer manager request)
  | none => finish router.logsMisses request (.ofStatus 404)

end Router

end SessionGate.Http
