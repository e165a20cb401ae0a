import SessionGate.Proofs.Http.Deeds

/-!
# The life of a session

A service starts with empty stores and takes steps: calls, requests, changes of roles and moves of
the clock. A token speaks for the account that its login found, from the login on, until it is
revoked, found ended, or ended.
-/

namespace SessionGate

open Time Http

/-- A step of a service. Managers come with calls and requests, so that the length of new sessions
may change at any time. -/
inductive Step where
  | made (call : Call)
  | requested (manager : Manager) (request : Request)
  | setRole (id : UserId) (role : Role)
  | setClock (now : Instant)
  | advance (span : Span)

/-- The world after a step of a service that has more gated routes of its own. -/
def Step.after (more : List Route) : Step → World → World
  | .made call, world => call.after world
  | .requested manager request, world =>
      (world.run ((Router.withGated more).answer manager request)).2
  | .setRole id role, world => (world.setRole id role).2
  | .setClock now, world => world.setClock now
  | .advance span, world =>
      match world.advance span with
      | .ok moved => moved
      | .error _ => world

/-- The deeds of a step. -/
def Step.deeds (more : List Route) : Step → World → List Deed
  | .made call, world => [⟨world, call⟩]
  | .requested manager request, world => requestDeeds more manager request world
  | _, _ => []

/-- The step does not set the clock to an instant in a leap second. -/
def Step.IsPlain : Step → Prop
  | .setClock now => now.isLeap = false
  | _ => True

/-- A service over time: the world as it has become, and what has been done. -/
structure Chronicle where
  world : World
  history : List Deed

namespace Chronicle

def start (now : Instant) (salts : Nat → Salt) (tokens : Nat → TokenBytes) : Chronicle :=
  ⟨.start now salts tokens, []⟩

def next (more : List Route) (chronicle : Chronicle) (step : Step) : Chronicle :=
  ⟨step.after more chronicle.world, chronicle.history ++ step.deeds more chronicle.world⟩

def follow (more : List Route) (chronicle : Chronicle) (steps : List Step) : Chronicle :=
  steps.foldl (next more) chronicle

variable {more : List Route} {chronicle : Chronicle}

@[simp]
theorem follow_nil (more : List Route) (chronicle : Chronicle) :
    chronicle.follow more [] = chronicle :=
  rfl

@[simp]
theorem follow_cons (more : List Route) (chronicle : Chronicle) (step : Step) (steps : List Step) :
    chronicle.follow more (step :: steps) = (chronicle.next more step).follow more steps :=
  rfl

@[simp]
theorem next_made (more : List Route) (chronicle : Chronicle) (call : Call) :
    chronicle.next more (.made call) =
      ⟨call.after chronicle.world, chronicle.history ++ [⟨chronicle.world, call⟩]⟩ :=
  rfl

theorem keeps_next (quiet : ∀ route ∈ more, route.IsQuiet) {step : Step} (plain : step.IsPlain)
    (keeps : Keeps chronicle.world.core chronicle.history) :
    Keeps (chronicle.next more step).world.core (chronicle.next more step).history := by
  obtain ⟨world, history⟩ := chronicle
  have unchanged : history ++ [] = history := List.append_nil _
  cases step with
  | made call => exact keeps.append_of_leads (@Leads.cons ⟨world, call⟩ [] _ (.nil _))
  | requested manager request =>
      exact keeps.append_of_leads (leads_requestDeeds quiet manager request world)
  | setRole id role =>
      simp only [next, Step.deeds, Step.after, unchanged, World.setRole]
      cases world.users.setRole id role with
      | error error => exact keeps
      | ok users => exact keeps.of_eq keeps.plain rfl rfl rfl rfl
  | setClock now =>
      simp only [next, Step.deeds, Step.after, unchanged]
      exact keeps.of_eq plain rfl rfl rfl rfl
  | advance span =>
      simp only [next, Step.deeds, Step.after, unchanged, World.advance]
      cases sum : world.now.add? span with
      | none => exact keeps
      | some now => exact keeps.of_eq (Instant.isLeap_of_add? keeps.plain sum) rfl rfl rfl rfl

/-- The store agrees with the history at every point of a run. -/
theorem keeps_follow (quiet : ∀ route ∈ more, route.IsQuiet) {steps : List Step}
    (plain : ∀ step ∈ steps, step.IsPlain)
    (keeps : Keeps chronicle.world.core chronicle.history) :
    Keeps (chronicle.follow more steps).world.core (chronicle.follow more steps).history := by
  induction steps generalizing chronicle with
  | nil => exact keeps
  | cons step steps ih =>
      apply ih (fun later member => plain later (List.mem_cons_of_mem _ member))
      exact keeps_next quiet (plain step List.mem_cons_self) keeps

/-- A token speaks for an identity exactly when a login has issued it to the account with that id
and, at the time, that role, the token has not been revoked since, every look-up of it and every
sweep since has found the session running, and the session is running now. -/
theorem resolve_ok_iff_login_and_running {more : List Route}
    (quiet : ∀ route ∈ more, route.IsQuiet) {now : Instant} (startPlain : now.isLeap = false)
    (salts : Nat → Salt) (tokens : Nat → TokenBytes) {steps : List Step}
    (plain : ∀ step ∈ steps, step.IsPlain)
    (fresh : ((start now salts tokens).follow more steps).world.core.DrawsFresh)
    {token : String} (notBlank : token.isEmpty = false) (identity : Identity) :
    (((start now salts tokens).follow more steps).world.attempt (Manager.resolve token)).1 =
        .ok identity ↔
      ∃ before login after session user,
        ((start now salts tokens).follow more steps).history = before ++ login :: after ∧
        login.Issues session user ∧ session.token = token ∧ identity = ⟨user.id, user.role⟩ ∧
        (∀ deed ∈ after, ¬ deed.Revokes token) ∧
        (∀ deed ∈ after, deed.LooksUp token ∨ deed.IsSweep →
          deed.before.now < session.expiresAt) ∧
        ((start now salts tokens).follow more steps).world.now < session.expiresAt := by
  have initially : Keeps (start now salts tokens).world.core (start now salts tokens).history :=
    Keeps.nil now startPlain salts tokens
  have keeps := keeps_follow quiet plain initially
  have resolved := keeps.resolve_ok_iff fresh notBlank identity
  rw [World.attempt_core] at resolved
  apply resolved.trans
  constructor
  · rintro ⟨session, user, ⟨before, login, after, split, issues, spared⟩, rfl, identified, running⟩
    exact ⟨before, login, after, session, user, split, issues, rfl, identified,
      fun deed member => (spared deed member).notRevoked,
      fun deed member => (spared deed member).running, running⟩
  · rintro ⟨before, login, after, session, user, split, issues, rfl, identified, unrevoked, found,
      running⟩
    exact ⟨session, user, ⟨before, login, after, split, issues,
      fun deed member => ⟨unrevoked deed member, found deed member⟩⟩, rfl, identified, running⟩

/-- The first session of the first account. -/
theorem resolve_ok_of_provision_and_login :
    (((start .epoch (fun _ => .replicate 8 0) fun index => .replicate 32 (.ofNat index)).follow []
        [.made (.provision .cheap ⟨"a", "b", none⟩ .moderator),
          .made (.login .cheap ⟨"a", "b"⟩)]).world.attempt
      (Manager.resolve (Token.ofBytes (.replicate 32 0)))).1 = .ok ⟨1, .moderator⟩ := by
  let world : World :=
    .start .epoch (fun _ => .replicate 8 0) fun index => .replicate 32 (.ofNat index)
  let manager : Manager := .cheap
  let opened : World := Call.after (.provision manager ⟨"a", "b", none⟩ .moderator) world
  let dayLater : Instant := ⟨86400, 0, by decide, by decide, by decide⟩
  let session : Session := ⟨Token.ofBytes (.replicate 32 0), dayLater, 1, .moderator⟩
  have short : ¬ 0xffffffff < (Octets.ofText "b").length := by decide
  have accepted :
      (world.core.attempt (manager.provision ⟨"a", "b", none⟩ .moderator)).1 = .ok 1 := by
    rw [Core.attempt_provision rfl, Hasher.record_salt, if_neg short]
    rfl
  have provisioned : world.core.attempt (manager.provision ⟨"a", "b", none⟩ .moderator) =
      (.ok 1, opened.core) :=
    Prod.ext accepted (Call.core_after_provision manager _ _ world).symm
  obtain ⟨record, found, right, left⟩ := Core.provision_ok rfl provisioned
  have now : opened.core.now = .epoch := by rw [left]; rfl
  have sound : opened.core.IsSound := by rw [left]; exact ⟨rfl, rfl⟩
  have plain : opened.core.now.isLeap = false := by rw [now]; rfl
  have token : opened.core.nextToken = Token.ofBytes (.replicate 32 0) := by rw [left]; rfl
  have sum : Instant.epoch.add? manager.ttl = some dayLater := by decide
  have length : (dayLater.since .epoch).toLifetime? = some ⟨86400000000000, by decide⟩ := by decide
  have opening : manager.openSession ⟨1, "a", none, record, .moderator⟩ opened.core.now
      opened.core.nextToken = .ok (session, ⟨86400000000000, by decide⟩) := by
    rw [Manager.openSession, now, token, sum]
    simp only [length]
    rfl
  have logged : opened.core.attempt (manager.login ⟨"a", "b"⟩) = (.ok (session, 1),
      { opened.core.tokenDrawn with
        sessions := opened.core.sessions.insert session.token session.entry }) :=
    @Core.login_ok opened.core manager ⟨"a", "b"⟩ _ _ _ sound plain found right opening (by decide)
  have final : (Call.after (.login manager ⟨"a", "b"⟩) opened).core =
      { opened.core.tokenDrawn with
        sessions := opened.core.sessions.insert session.token session.entry } := by
    rw [Call.core_after_login, logged]
  have fresh : (Call.after (.login manager ⟨"a", "b"⟩) opened).core.DrawsFresh := by
    intro earlier later order below
    rw [final, left] at below
    have first : later < 1 := below
    omega
  have running : (Call.after (.login manager ⟨"a", "b"⟩) opened).now < dayLater := by
    rw [← World.core_now, final, left]
    decide
  have followed : (start .epoch (fun _ => .replicate 8 0)
      fun index => .replicate 32 (.ofNat index)).follow []
        [.made (.provision manager ⟨"a", "b", none⟩ .moderator),
          .made (.login manager ⟨"a", "b"⟩)] =
      ⟨Call.after (.login manager ⟨"a", "b"⟩) opened,
        [⟨world, .provision manager ⟨"a", "b", none⟩ .moderator⟩,
          ⟨opened, .login manager ⟨"a", "b"⟩⟩]⟩ := by
    simp only [follow_cons, follow_nil, next_made, start, List.nil_append, List.cons_append]
    rfl
  have quiet : ∀ route ∈ ([] : List Route), route.IsQuiet := fun _ member =>
    absurd member List.not_mem_nil
  refine (resolve_ok_iff_login_and_running quiet rfl _ _ ?_ ?_ rfl _).mpr ?_
  · intro step member
    simp only [List.mem_cons, List.not_mem_nil, or_false] at member
    obtain rfl | rfl := member <;> trivial
  · rw [followed]
    exact fresh
  · rw [followed]
    exact ⟨[⟨world, .provision manager ⟨"a", "b", none⟩ .moderator⟩],
      ⟨opened, .login manager ⟨"a", "b"⟩⟩, [], session, ⟨1, "a", none, record, .moderator⟩, rfl,
      Deed.issues_login_iff.mpr ⟨found, congrArg Prod.fst logged⟩, rfl, rfl,
      fun _ member => absurd member List.not_mem_nil,
      fun _ member => absurd member List.not_mem_nil, running⟩

end Chronicle

end SessionGate
