import SessionGate.Proofs.World.Conversation
import SessionGate.Proofs.World.Core

/-!
# Calls on the stores

The journal of a world notes every call on a store. So the calls of a run are those that its
program makes in the core of the world, and they can be told without the log.
-/

namespace SessionGate

open Time

variable {α β σ : Type}

theorem Program.transcript_bind (answer : Surroundings σ) (program : Program α)
    (next : α → Program β) (state : σ) :
    (program >>= next).transcript answer state =
      program.transcript answer state ++
        (next (program.run answer state).1).transcript answer (program.run answer state).2 := by
  induction program generalizing state with
  | done value => rfl
  | ask question resume ih =>
      rw [bind_ask, transcript_ask, transcript_ask, run_ask, ih]
      cases question.isLog <;> rfl

namespace Core

/-- The calls on the stores that a program makes. -/
def runCalls (program : Program α) (core : Core) : List Question :=
  ((program.transcript answer core).map Sigma.fst).filter Question.isStoreCall

/-- The calls on the stores that an action makes. -/
def attemptCalls (action : Action α) (core : Core) : List Question :=
  core.runCalls action

theorem attemptCalls_eq_transcript (action : Action α) (core : Core) :
    core.attemptCalls action =
      ((action.transcript answer core).map Sigma.fst).filter Question.isStoreCall :=
  rfl

theorem runCalls_ask (question : Question) (resume : question.Answer → Program α) (core : Core) :
    core.runCalls (.ask question resume) =
      (if question.isStoreCall then [question] else []) ++
        (core.answer question).2.runCalls (resume (core.answer question).1) := by
  rw [runCalls, Program.transcript_ask]
  cases question <;> rfl

theorem runCalls_bind (program : Program α) (next : α → Program β) (core : Core) :
    core.runCalls (program >>= next) =
      core.runCalls program ++ (core.run program).2.runCalls (next (core.run program).1) := by
  rw [runCalls, Program.transcript_bind, List.map_append, List.filter_append]
  rfl

theorem attemptCalls_bind (action : Action α) (next : α → Action β) (core : Core) :
    core.attemptCalls (action >>= next) =
      core.attemptCalls action ++
        match core.attempt action with
        | (.ok value, core) => core.attemptCalls (next value)
        | (.error _, _) => [] := by
  change core.runCalls (ExceptT.bind action next : Program (Except AuthError β)) = _
  rw [ExceptT.bind, ExceptT.mk, runCalls_bind]
  congr 1
  change (core.attempt action).2.runCalls (ExceptT.bindCont next (core.attempt action).1) = _
  rcases core.attempt action with ⟨error | value, after⟩ <;> rfl

theorem attemptCalls_perform (program : Program α) (core : Core) :
    core.attemptCalls (Action.perform program) = core.runCalls program := by
  change core.runCalls ((Except.ok <$> program : Program (Except AuthError α))) = _
  rw [← bind_pure_comp, runCalls_bind]
  exact List.append_nil _

@[simp]
theorem attemptCalls_outcome (outcome : Except AuthError α) (core : Core) :
    core.attemptCalls (ExceptT.mk (pure outcome)) = [] :=
  rfl

@[simp]
theorem attemptCalls_findUser (email : String) (core : Core) :
    core.attemptCalls (Action.findUser email) = [.findUser email] :=
  rfl

@[simp]
theorem attemptCalls_putSession (token : String) (identity : Identity) (lifetime : Lifetime)
    (core : Core) :
    core.attemptCalls (Action.putSession token identity lifetime) =
      [.putSession token identity lifetime] :=
  rfl

@[simp]
theorem attemptCalls_readClock (core : Core) : core.attemptCalls Action.readClock = [] :=
  rfl

@[simp]
theorem attemptCalls_drawToken (core : Core) : core.attemptCalls Action.drawToken = [] :=
  rfl

end Core

namespace World

theorem calls_logged (event : Event) (world : World) :
    (world.logged event).calls = world.calls := by
  simp [logged, calls]

theorem calls_noted (question : Question) (world : World) :
    (world.noted question).calls =
      world.calls ++ if question.isStoreCall then [question] else [] := by
  rw [noted]
  split <;> simp [calls, *]

theorem calls_viaUserStore {stale : Option α} {sound : World → Except AuthError α × World}
    {world : World} (same : (sound world).2.calls = world.calls) :
    (world.viaUserStore stale sound).2.calls = world.calls := by
  unfold viaUserStore
  cases world.userStore <;> cases stale <;> simp [same]

theorem calls_viaSessionStore {forgetful : Option α} {sound : World → Except AuthError α × World}
    {world : World} (same : (sound world).2.calls = world.calls) :
    (world.viaSessionStore forgetful sound).2.calls = world.calls := by
  unfold viaSessionStore
  cases world.sessionStore <;> cases forgetful <;> simp [same]

theorem calls_findUser (email : String) (world : World) :
    (world.findUser email).2.calls = world.calls := by
  rw [findUser]
  cases world.users.find? email with
  | none => exact calls_logged _ world
  | some user => rfl

theorem calls_insertUser (row : UserRow) (world : World) :
    (world.insertUser row).2.calls = world.calls := by
  rw [insertUser]
  cases world.users.insert row with
  | error error => rfl
  | ok inserted => exact calls_logged _ { world with users := inserted.2 }

theorem calls_setEntry (key : String) (value : Octets) (lifetime : Option Lifetime)
    (world : World) : (world.setEntry key value lifetime).2.calls = world.calls := by
  rw [setEntry]
  cases world.sessions.set world.now key value lifetime <;> rfl

theorem calls_putSession (token : String) (identity : Identity) (lifetime : Lifetime)
    (world : World) : (world.putSession token identity lifetime).2.calls = world.calls := by
  rw [putSession, ← calls_setEntry token identity.encode (some lifetime) world]
  cases token.isEmpty with
  | true => exact (calls_setEntry token identity.encode (some lifetime) world).symm
  | false =>
      rcases world.setEntry token identity.encode (some lifetime) with ⟨error | stored, after⟩
      · rfl
      · exact calls_logged _ after

theorem calls_deleteSession (token : String) (world : World) :
    (world.deleteSession token).2.calls = world.calls := by
  rw [deleteSession]
  cases token.isEmpty with
  | true => rfl
  | false => exact calls_logged _ (world.deleteEntry token).2

theorem calls_getSession (token : String) (world : World) :
    (world.getSession token).2.calls = world.calls := by
  rw [getSession, getEntry]
  cases token.isEmpty with
  | true => rfl
  | false =>
      rcases world.sessions.get world.now token with ⟨_ | octets, sessions⟩
      · rfl
      · dsimp only
        cases Identity.decode octets <;> rfl

/-- A store may log something when it is called, but makes no calls itself. -/
theorem calls_reply (question : Question) (world : World) :
    (world.reply question).2.calls = world.calls := by
  cases question with
  | findUser email => exact calls_viaUserStore (calls_findUser email world)
  | emailTaken email => exact calls_viaUserStore rfl
  | insertUser row => exact calls_viaUserStore (calls_insertUser row world)
  | putSession token identity lifetime =>
      exact calls_viaSessionStore (calls_putSession token identity lifetime world)
  | deleteSession token => exact calls_viaSessionStore (calls_deleteSession token world)
  | getSession token => exact calls_viaSessionStore (calls_getSession token world)
  | log event => exact calls_logged event world
  | readClock | drawSalt | drawToken => rfl

theorem calls_answer (question : Question) (world : World) :
    (world.answer question).2.calls =
      world.calls ++ if question.isStoreCall then [question] else [] :=
  (calls_reply question (world.noted question)).trans (calls_noted question world)

/-- What the journal notes of a run are the calls of its program. -/
theorem calls_run (program : Program α) (world : World) :
    (world.run program).2.calls = world.calls ++ world.core.runCalls program := by
  induction program generalizing world with
  | done value => exact (List.append_nil world.calls).symm
  | ask question resume ih =>
      rw [Core.runCalls_ask, ← List.append_assoc, ← calls_answer, answer_core]
      exact ih _ (world.answer question).2

theorem calls_attempt (action : Action α) (world : World) :
    (world.attempt action).2.calls = world.calls ++ world.core.attemptCalls action :=
  calls_run action world

end World

end SessionGate
