import SessionGate.Proofs.Decimal.Integer
import SessionGate.Proofs.Http.Gate

/-!
# What responses tell about roles

A response names a role when its body has a member that says so. Failures name none, whatever the
words of the caller that they repeat, for a quote in a text is written with an escape. Only the
display of a caller's identity names a role, and that is the caller's own.
-/

namespace SessionGate

namespace Json

/-- In a written text at the end of an object a quote with a colon after it has a backslash before
it. -/
theorem not_infix_written {before : Char} (visible : before ≠ '\\') (text : List Char) :
    ¬ [before, '"', ':'] <:+: text.flatMap writeCharacter ++ ['"', '\x7d'] ∧
      ¬ ['"', ':'] <+: text.flatMap writeCharacter ++ ['"', '\x7d'] := by
  induction text with
  | nil => simp [List.infix_cons_iff]
  | cons character text ih =>
      obtain ⟨noInfix, noPrefix⟩ := ih
      rw [List.flatMap_cons, List.append_assoc]
      generalize text.flatMap writeCharacter ++ ['"', '\x7d'] = rest at noInfix noPrefix
      have digits : ∀ digit < 16, Nat.digitChar digit ≠ '"' := by decide
      -- All escapes begin with a backslash. Another character stands for itself and is no quote.
      unfold writeCharacter
      split
      case h_8 noQuote _ _ _ _ _ _ =>
        have differs : '"' ≠ character := fun same => noQuote same.symm
        by_cases small : character.toNat < 0x20
        · have high := digits (character.toNat / 16) (by omega)
          have low := digits (character.toNat % 16) (Nat.mod_lt _ (by omega))
          simp [List.infix_cons_iff, noInfix, noPrefix, visible, small, high.symm, low.symm]
        · simp [List.infix_cons_iff, noInfix, noPrefix, small, differs]
      all_goals simp [List.infix_cons_iff, noInfix, noPrefix, visible]

end Json

/-- The action gives nothing but good values. -/
def Action.Yields {α : Type} (action : Action α) (good : α → Prop) : Prop :=
  ∀ core value, (Core.attempt action core).1 = .ok value → good value

namespace Action

variable {α β : Type} {good : α → Prop}

/-- What an action yields is settled by what comes last in it. -/
theorem yields_bind {action : Action β} {next : β → Action α}
    (last : ∀ value, (next value).Yields good) : Yields (action >>= next) good := by
  intro core value
  rw [Core.attempt_bind]
  rcases core.attempt action with ⟨error | first, after⟩
  · nofun
  · exact last first after value

theorem yields_settle {outcome : Except AuthError α}
    (settled : ∀ value, outcome = .ok value → good value) :
    Yields (Http.settle outcome) good :=
  fun _ => settled

theorem yields_pure {value : α} (holds : good value) : Yields (pure value) good := by
  intro core other same
  rwa [← Except.ok.inj same]

theorem yields_throw (error : AuthError) : Yields (throw error : Action α) good := by
  intro core value same
  change (Except.error error : Except AuthError α) = .ok value at same
  cases same

end Action

namespace Http

/-- The body of the response has a member that names the role. -/
def Response.Names (response : Response) (role : Role) : Prop :=
  Json.writeText "role" ++ ':' :: role.write <:+: response.body.toList

/-- The response makes nobody a moderator. -/
def Response.IsDiscreet (response : Response) : Prop :=
  ¬ response.Names .moderator

theorem isDiscreet_of_not_mem {response : Response} (absent : 'm' ∉ response.body.toList) :
    response.IsDiscreet :=
  fun names => absent (names.subset (by decide))

theorem ofStatus_isDiscreet (status : Nat) : (Response.ofStatus status).IsDiscreet :=
  isDiscreet_of_not_mem (by simp [Response.ofStatus])

theorem failureResponse_isDiscreet (error : AuthError) : (failureResponse error).IsDiscreet := by
  intro names
  have colon : ['e', '"', ':'] <:+: Json.writeText "role" ++ ':' :: Role.moderator.write := by
    decide
  have inside := colon.trans names
  have body : (failureResponse error).body.toList =
      ['{', '"', 'e', 'r', 'r', '"', ':', '"'] ++
        (error.message.toList.flatMap Json.writeCharacter ++ ['"', '}']) := by
    have name : Json.writeText "err" = ['"', 'e', 'r', 'r', '"'] := by decide
    have text : Json.writeText error.message =
        '"' :: error.message.toList.flatMap Json.writeCharacter ++ ['"'] := rfl
    simp [failureResponse, Response.ofJson, Json.writeObject, List.intercalate, name, text]
  rw [body] at inside
  have absent := (Json.not_infix_written (by decide : 'e' ≠ '\\') error.message.toList).1
  simp [List.infix_cons_iff, absent] at inside

theorem success_isDiscreet {value : List Char} (absent : 'm' ∉ value) :
    (success value).IsDiscreet := by
  have body : Json.writeText "body" = ['"', 'b', 'o', 'd', 'y', '"'] := by decide
  apply isDiscreet_of_not_mem
  simp [success, Response.ofJson, Json.writeObject, List.intercalate, body, absent]

theorem not_mem_id (id : UserId) : 'm' ∉ Decimal.ofInt id.toInt :=
  Decimal.not_mem_ofInt (by decide) (by decide) id.toInt

theorem success_id_isDiscreet (id : UserId) :
    (success (Json.writeObject [("id", Decimal.ofInt id.toInt)])).IsDiscreet := by
  have name : Json.writeText "id" = ['"', 'i', 'd', '"'] := by decide
  apply success_isDiscreet
  simp [Json.writeObject, List.intercalate, name, not_mem_id]

theorem success_user_isDiscreet (id : UserId) :
    (success (Json.writeObject [("id", Decimal.ofInt id.toInt),
      ("role", Role.user.write)])).IsDiscreet := by
  have name : Json.writeText "id" = ['"', 'i', 'd', '"'] := by decide
  have role : Json.writeText "role" = ['"', 'r', 'o', 'l', 'e', '"'] := by decide
  have user : Role.user.write = ['"', 'u', 's', 'e', 'r', '"'] := by decide
  apply success_isDiscreet
  simp [Json.writeObject, List.intercalate, name, role, user, not_mem_id]

theorem sessionResponse_isDiscreet {session : Session} {id : UserId} {response : Response}
    (made : sessionResponse session id = .ok response) : response.IsDiscreet := by
  rw [sessionResponse] at made
  cases issued : Cookie.issue session with
  | error error => simp [issued, Except.map] at made
  | ok cookie =>
      rw [issued] at made
      rw [← Except.ok.inj made]
      exact success_id_isDiscreet id

/-! ## What handlers yield -/

theorem login_yields {good : Response → Prop}
    (handsOut : ∀ session id response, sessionResponse session id = .ok response → good response)
    (manager : Manager) (request : Request) : (login manager request).Yields good := by
  rw [login]
  refine Action.yields_bind fun _ => Action.yields_bind fun _ => Action.yields_bind fun _ =>
    Action.yields_bind fun (session, id) => Action.yields_bind fun _ => Action.yields_settle ?_
  exact handsOut session id

theorem register_yields {good : Response → Prop}
    (handsOut : ∀ session id response, sessionResponse session id = .ok response → good response)
    (manager : Manager) (request : Request) : (register manager request).Yields good := by
  rw [register]
  refine Action.yields_bind fun _ => Action.yields_bind fun _ => Action.yields_bind fun _ =>
    Action.yields_bind fun id => Action.yields_bind fun (session, _) => Action.yields_bind fun _ =>
      Action.yields_settle ?_
  exact handsOut session id

theorem logout_yields {good : Response → Prop}
    (ends : ∀ cookie, good ((Response.ofStatus 204).withCookie cookie)) (request : Request) :
    (logout request).Yields good := by
  rw [logout]
  cases Cookie.carrier? request.headers with
  | none => exact Action.yields_throw _
  | some carrier =>
      exact Action.yields_bind fun _ => Action.yields_bind fun _ => Action.yields_bind fun _ =>
        Action.yields_bind fun _ => Action.yields_bind fun cookie =>
          Action.yields_pure (ends cookie)

theorem moderation_isDiscreet (identity : Identity) :
    (moderation identity).Yields Response.IsDiscreet :=
  Action.yields_bind fun _ => Action.yields_pure (ofStatus_isDiscreet 204)

theorem ofIdentity_yields {answer : Identity → Action Response} {good : Response → Prop}
    {identity : Option Identity} (manager : Manager) (request : Request)
    (shown : ∀ known, identity = some known → (answer known).Yields good) :
    (Handler.ofIdentity answer manager request identity).Yields good := by
  cases identity with
  | none => exact Action.yields_throw _
  | some identity => exact shown identity rfl

/-- The handlers of a service answer a caller who is no moderator discreetly. -/
theorem handler_isDiscreet {route : Route} (member : route ∈ Router.standard.routes)
    (manager : Manager) (request : Request) {identity : Option Identity}
    (ordinary : ∀ known, identity = some known → known.role = .user) :
    (route.handler manager request identity).Yields Response.IsDiscreet := by
  simp only [Router.standard, Router.withGated, Router.entryPoints, Router.standardGated,
    List.cons_append, List.nil_append, List.append_nil, List.mem_cons, List.not_mem_nil,
    or_false] at member
  obtain rfl | rfl | rfl | rfl | rfl | rfl := member
  · exact login_yields (fun _ _ _ => sessionResponse_isDiscreet) manager request
  · exact register_yields (fun _ _ _ => sessionResponse_isDiscreet) manager request
  · exact logout_yields (fun _ => ofStatus_isDiscreet 204) request
  · exact Action.yields_pure (ofStatus_isDiscreet 204)
  · refine ofIdentity_yields manager request fun known same => ?_
    obtain ⟨id, role⟩ := known
    obtain rfl : role = .user := ordinary _ same
    exact Action.yields_pure (success_user_isDiscreet id)
  · exact ofIdentity_yields manager request fun known _ => moderation_isDiscreet known

/-! ## What routes answer -/

variable {route : Route} {manager : Manager} {request : Request} {core : Core}

theorem respond_isDiscreet {action : Action Response} (yields : action.Yields Response.IsDiscreet)
    (core : Core) : (core.run (respond action)).1.IsDiscreet := by
  have handled := yields core
  rw [Core.run_respond]
  rcases attempted : core.attempt action with ⟨error | response, after⟩
  · simp only [Core.run_failure]
    exact failureResponse_isDiscreet error
  · rw [attempted] at handled
    exact handled response rfl

theorem dispatch_isDiscreet (member : route ∈ Router.standard.routes) (manager : Manager)
    (request : Request) {identity : Option Identity}
    (ordinary : ∀ known, identity = some known → known.role = .user) (core : Core) :
    (core.run (route.dispatch manager request identity)).1.IsDiscreet := by
  rw [Core.run_dispatch]
  split
  · exact respond_isDiscreet (handler_isDiscreet member manager request ordinary) core
  · exact ofStatus_isDiscreet 405

theorem complete_isDiscreet (route : Route) (request : Request) {response : Response}
    (discreet : response.IsDiscreet) : (route.complete request response).IsDiscreet := by
  rw [Route.complete]
  split
  · exact isDiscreet_of_not_mem (by simp)
  · split
    · exact discreet
    · exact discreet

/-- A service answers a caller who is no moderator discreetly, whatever the request. -/
theorem answer_isDiscreet (manager : Manager) (request : Request) (core : Core)
    (ordinary : ∀ identity,
      (core.attempt (Gate.authenticate (Cookie.carrier? request.headers))).1 = .ok identity →
        identity.role = .user) :
    (core.run (Router.standard.answer manager request)).1.IsDiscreet := by
  cases found : Router.standard.routes.find? (·.accepts request.path) with
  | none =>
      rw [Core.run_answer_of_find?_none found]
      exact ofStatus_isDiscreet 404
  | some route =>
      have member := List.mem_of_find?_eq_some found
      rw [Core.run_answer_of_find? found, Core.run_routeAnswer]
      apply complete_isDiscreet
      cases gated : route.isGated with
      | false =>
          rw [Core.run_throughGate_of_not_isGated gated]
          exact dispatch_isDiscreet member manager request (by simp) core
      | true =>
          rw [Core.run_throughGate_of_isGated gated]
          rcases asked : core.attempt (Gate.authenticate (Cookie.carrier? request.headers)) with
            ⟨error | identity, after⟩
          · simp only [Core.run_failure]
            exact failureResponse_isDiscreet error
          · rw [asked] at ordinary
            refine dispatch_isDiscreet member manager request (fun known same => ?_) after
            exact ordinary known (congrArg Except.ok (Option.some.inj same))

end Http

end SessionGate
