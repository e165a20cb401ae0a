import SessionGate.Proofs.Store.ExpiringMap
import SessionGate.World

/-!
# The part of a world that answers depend on

No answer depends on the journal. A run in a world is a run in its core, the world without its
journal, and there the log leaves no trace. What stores that are sound answer is stated here once,
question by question.
-/

namespace SessionGate

open Time

/-- A program runs the same way before and after a projection of states that the answers respect. -/
theorem Program.run_project {α σ τ : Type}
    {answer : (question : Question) → σ → question.Answer × σ}
    {image : (question : Question) → τ → question.Answer × τ} {project : σ → τ}
    (respects : ∀ question state, image question (project state) =
      ((answer question state).1, project (answer question state).2))
    (program : Program α) (state : σ) :
    program.run image (project state) =
      ((program.run answer state).1, project (program.run answer state).2) := by
  induction program generalizing state with
  | done value => rfl
  | ask question resume ih =>
      rw [run_ask, run_ask, respects]
      exact ih _ _

/-- A world without its journal. -/
structure Core where
  now : Instant
  users : UserTable
  sessions : ExpiringMap
  random : RandomSource
  userStore : UserStoreCondition
  sessionStore : SessionStoreCondition

def World.core (world : World) : Core :=
  ⟨world.now, world.users, world.sessions, world.random, world.userStore, world.sessionStore⟩

namespace Core

variable {α β : Type}

def world (core : Core) : World :=
  ⟨core.now, core.users, core.sessions, core.random, core.userStore, core.sessionStore, []⟩

/-- Answer a question, and note nothing. -/
def answer (question : Question) (core : Core) : question.Answer × Core :=
  ((core.world.answer question).1, (core.world.answer question).2.core)

def run (program : Program α) (core : Core) : α × Core :=
  program.run answer core

def attempt (action : Action α) (core : Core) : Except AuthError α × Core :=
  core.run action

/-- Both stores do what they should. -/
structure IsSound (core : Core) : Prop where
  users : core.userStore = .sound
  sessions : core.sessionStore = .sound

/-! ## Programs and actions -/

theorem run_bind (program : Program α) (next : α → Program β) (core : Core) :
    core.run (program >>= next) = (core.run program).2.run (next (core.run program).1) :=
  Program.run_bind answer program next core

theorem attempt_bind (action : Action α) (next : α → Action β) (core : Core) :
    core.attempt (action >>= next) =
      match core.attempt action with
      | (.ok value, core) => core.attempt (next value)
      | (.error error, core) => (.error error, core) := by
  change core.run (ExceptT.bind action next : Program (Except AuthError β)) = _
  rw [ExceptT.bind, ExceptT.mk, run_bind]
  change (core.attempt action).2.run (ExceptT.bindCont next (core.attempt action).1) = _
  rcases core.attempt action with ⟨outcome, after⟩
  cases outcome <;> rfl

theorem attempt_perform (program : Program α) (core : Core) :
    core.attempt (Action.perform program) = (.ok (core.run program).1, (core.run program).2) := by
  change core.run ((Except.ok <$> program : Program (Except AuthError α))) = _
  rw [← bind_pure_comp, run_bind]
  rfl

@[simp]
theorem attempt_outcome (outcome : Except AuthError α) (core : Core) :
    core.attempt (ExceptT.mk (pure outcome)) = (outcome, core) :=
  rfl

/-! ## What is answered -/

def saltDrawn (core : Core) : Core :=
  { core with random := { core.random with saltsGiven := core.random.saltsGiven + 1 } }

def tokenDrawn (core : Core) : Core :=
  { core with random := { core.random with tokensGiven := core.random.tokensGiven + 1 } }

theorem answer_findUser {core : Core} (sound : core.userStore = .sound) (email : String) :
    core.answer (.findUser email) =
      match core.users.find? email with
      | some user => (.ok user, core)
      | none => (.error .notFound, core) := by
  obtain ⟨now, users, sessions, random, userStore, sessionStore⟩ := core
  obtain rfl : userStore = .sound := sound
  simp only [answer, World.answer, World.noted, World.reply, World.viaUserStore, World.findUser,
    Core.world, Question.isStoreCall, if_true]
  cases users.find? email <;> rfl

theorem answer_emailTaken {core : Core} (sound : core.userStore = .sound) (email : String) :
    core.answer (.emailTaken email) = (.ok (core.users.contains email), core) := by
  obtain ⟨now, users, sessions, random, userStore, sessionStore⟩ := core
  obtain rfl : userStore = .sound := sound
  rfl

theorem answer_insertUser {core : Core} (sound : core.userStore = .sound) (row : UserRow) :
    core.answer (.insertUser row) =
      match core.users.insert row with
      | .ok (id, users) => (.ok id, { core with users })
      | .error error => (.error error, core) := by
  obtain ⟨now, users, sessions, random, userStore, sessionStore⟩ := core
  obtain rfl : userStore = .sound := sound
  simp only [answer, World.answer, World.noted, World.reply, World.viaUserStore,
    World.insertUser, Core.world, Question.isStoreCall, if_true]
  cases users.insert row <;> rfl

theorem answer_putSession {core : Core} (sound : core.sessionStore = .sound) (token : String)
    (identity : Identity) (lifetime : Lifetime) :
    core.answer (.putSession token identity lifetime) =
      if token.isEmpty then (.error .invalidToken, core)
      else match core.sessions.set core.now token identity.encode (some lifetime) with
        | .ok sessions => (.ok (), { core with sessions })
        | .error error => (.error error, core) := by
  obtain ⟨now, users, sessions, random, userStore, sessionStore⟩ := core
  obtain rfl : sessionStore = .sound := sound
  simp only [answer, World.answer, World.noted, World.reply, World.viaSessionStore,
    World.putSession, World.setEntry, Core.world, Question.isStoreCall, if_true]
  split
  · rfl
  · cases sessions.set now token identity.encode (some lifetime) <;> rfl

theorem answer_deleteSession {core : Core} (sound : core.sessionStore = .sound) (token : String) :
    core.answer (.deleteSession token) =
      if token.isEmpty then (.error .invalidToken, core)
      else (.ok (), { core with sessions := core.sessions.erase token }) := by
  obtain ⟨now, users, sessions, random, userStore, sessionStore⟩ := core
  obtain rfl : sessionStore = .sound := sound
  simp only [answer, World.answer, World.noted, World.reply, World.viaSessionStore,
    World.deleteSession, Core.world, Question.isStoreCall, if_true]
  split <;> rfl

/-- Who the bytes of an entry speak for, if there is an entry. -/
def identityOf : Option Octets → Except AuthError Identity
  | none => .error .notFound
  | some octets =>
      (Identity.decode octets).mapError fun error => .internal (.undecodableEntry error)

/-- What the store of sessions answers about a token that is not empty. -/
def lookUp (core : Core) (token : String) : Except AuthError Identity × Core :=
  match core.sessionStore with
  | .failing report => (.error (.internal (.reported report)), core)
  | .forgetful => (.ok ⟨0, .user⟩, core)
  | .sound =>
      (identityOf (core.sessions.get core.now token).1,
        { core with sessions := (core.sessions.get core.now token).2 })

theorem lookUp_of_sound {core : Core} (sound : core.sessionStore = .sound) (token : String) :
    core.lookUp token =
      (identityOf (core.sessions.get core.now token).1,
        { core with sessions := (core.sessions.get core.now token).2 }) := by
  rw [lookUp, sound]

theorem answer_getSession {core : Core} {token : String} (notBlank : token.isEmpty = false) :
    core.answer (.getSession token) = core.lookUp token := by
  obtain ⟨now, users, sessions, random, userStore, sessionStore⟩ := core
  cases sessionStore with
  | failing report => rfl
  | forgetful => rfl
  | sound =>
      simp only [answer, World.answer, World.noted, World.reply, World.viaSessionStore,
        World.getSession, World.getEntry, Core.world, Question.isStoreCall, if_true, notBlank,
        Bool.false_eq_true, if_false, lookUp]
      rcases sessions.get now token with ⟨_ | octets, left⟩
      · rfl
      · simp only [identityOf]
        cases Identity.decode octets <;> rfl

theorem answer_getSession_of_sound {core : Core} (sound : core.sessionStore = .sound)
    (token : String) :
    core.answer (.getSession token) =
      if token.isEmpty then (.error .invalidToken, core)
      else (identityOf (core.sessions.get core.now token).1,
        { core with sessions := (core.sessions.get core.now token).2 }) := by
  cases blank : token.isEmpty with
  | true =>
      obtain ⟨now, users, sessions, random, userStore, sessionStore⟩ := core
      obtain rfl : sessionStore = .sound := sound
      simp only [answer, World.answer, World.noted, World.reply, World.viaSessionStore,
        World.getSession, Core.world, Question.isStoreCall, if_true, blank]
      rfl
  | false => exact (answer_getSession blank).trans (lookUp_of_sound sound token)

theorem answer_now {core : Core} (sound : core.IsSound) (question : Question) :
    (core.answer question).2.now = core.now := by
  cases question with
  | findUser email =>
      rw [answer_findUser sound.users]
      cases core.users.find? email <;> rfl
  | emailTaken email => rw [answer_emailTaken sound.users]
  | insertUser row =>
      rw [answer_insertUser sound.users]
      cases core.users.insert row <;> rfl
  | putSession token identity lifetime =>
      rw [answer_putSession sound.sessions]
      cases token.isEmpty with
      | true => rfl
      | false =>
          cases core.sessions.set core.now token identity.encode (some lifetime) <;> rfl
  | deleteSession token =>
      rw [answer_deleteSession sound.sessions]
      cases token.isEmpty <;> rfl
  | getSession token =>
      rw [answer_getSession_of_sound sound.sessions]
      cases token.isEmpty <;> rfl
  | readClock | drawSalt | drawToken | log event => rfl

end Core

/-! ## Worlds and their cores -/

namespace World

@[simp]
theorem core_now (world : World) : world.core.now = world.now :=
  rfl

/-- The journal does not take part in any answer. -/
theorem answer_core (question : Question) (world : World) :
    world.core.answer question = ((world.answer question).1, (world.answer question).2.core) := by
  obtain ⟨now, users, sessions, random, userStore, sessionStore, journal⟩ := world
  cases question with
  | findUser email =>
      cases userStore <;> try rfl
      all_goals
        simp only [Core.answer, answer, noted, reply, viaUserStore, findUser, Core.world, core,
          Question.isStoreCall, if_true]
        cases users.find? email <;> rfl
  | insertUser row =>
      cases userStore <;> try rfl
      all_goals
        simp only [Core.answer, answer, noted, reply, viaUserStore, insertUser, Core.world, core,
          Question.isStoreCall, if_true]
        cases users.insert row <;> rfl
  | putSession token identity lifetime =>
      cases sessionStore <;> try rfl
      simp only [Core.answer, answer, noted, reply, viaSessionStore, putSession, setEntry,
        Core.world, core, Question.isStoreCall, if_true]
      split
      · rfl
      · cases sessions.set now token identity.encode (some lifetime) <;> rfl
  | deleteSession token =>
      cases sessionStore <;> try rfl
      all_goals
        simp only [Core.answer, answer, noted, reply, viaSessionStore, deleteSession, Core.world,
          core, Question.isStoreCall, if_true]
        split <;> rfl
  | getSession token =>
      cases sessionStore <;> try rfl
      simp only [Core.answer, answer, noted, reply, viaSessionStore, getSession, getEntry,
        Core.world, core, Question.isStoreCall, if_true]
      split
      · rfl
      · rcases sessions.get now token with ⟨_ | octets, left⟩
        · rfl
        · dsimp only
          cases Identity.decode octets <;> rfl
  | emailTaken email => cases userStore <;> rfl
  | readClock | drawSalt | drawToken | log event => rfl

theorem run_core {α : Type} (program : Program α) (world : World) :
    world.core.run program = ((world.run program).1, (world.run program).2.core) :=
  Program.run_project answer_core program world

theorem run_fst {α : Type} (program : Program α) (world : World) :
    (world.run program).1 = (world.core.run program).1 :=
  (congrArg Prod.fst (run_core program world)).symm

theorem core_run_snd {α : Type} (program : Program α) (world : World) :
    (world.run program).2.core = (world.core.run program).2 :=
  (congrArg Prod.snd (run_core program world)).symm

theorem attempt_core {α : Type} (action : Action α) (world : World) :
    world.core.attempt action = ((world.attempt action).1, (world.attempt action).2.core) :=
  run_core action world

theorem attempt_bind {α β : Type} (action : Action α) (next : α → Action β) (world : World) :
    world.attempt (action >>= next) =
      match world.attempt action with
      | (.ok value, world) => world.attempt (next value)
      | (.error error, world) => (.error error, world) := by
  change world.run (ExceptT.bind action next : Program (Except AuthError β)) = _
  rw [ExceptT.bind, ExceptT.mk, run, Program.run_bind]
  change (world.attempt action).2.run (ExceptT.bindCont next (world.attempt action).1) = _
  rcases world.attempt action with ⟨outcome, after⟩
  cases outcome <;> rfl

end World

end SessionGate
