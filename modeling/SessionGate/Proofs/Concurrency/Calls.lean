import Mathlib.Data.List.Induction
import Mathlib.Logic.Function.Basic
import SessionGate.Proofs.Sessions.Operations

/-!
# Calls at once

Calls on the session rules that run at the same time interleave between their questions. A step of
a call is one question answered; giving an account another role and moving the clock are one step
each. The same calls may be made one after another, each with the random bytes that it draws.
-/

namespace SessionGate

open Time

/-- The random bytes that a call draws where it asks for them. -/
structure Draws where
  salt : Salt
  token : TokenBytes

def Draws.tokenText (draws : Draws) : String :=
  Token.ofBytes draws.token

/-- A call on the session rules, a change of a role, or a move of the clock. -/
inductive Operation where
  | register (manager : Manager) (user : NewUser)
  | provision (manager : Manager) (user : NewUser) (role : Role)
  | login (manager : Manager) (credentials : Credentials)
  | logout (token : String)
  | resolve (token : String)
  | setRole (id : UserId) (role : Role)
  | setClock (now : Instant)
  | advance (span : Span)

/-- What an operation comes to. -/
inductive Reply where
  | opened (result : Except AuthError UserId)
  | issued (result : Except AuthError (Session × UserId))
  | revoked (result : Except AuthError Unit)
  | identified (result : Except AuthError Identity)
  | roleSet (result : Except AuthError Unit)
  | clockMoved (result : Except ClockError Unit)

/-- Answer a question of a call that draws these bytes. -/
def Core.answerDrawing (draws : Draws) (question : Question) (core : Core) :
    question.Answer × Core :=
  match question with
  | .drawSalt => (.ok draws.salt, core)
  | .drawToken => (.ok draws.token, core)
  | question => core.answer question

def Core.runDrawing {α : Type} (draws : Draws) (program : Program α) (core : Core) : α × Core :=
  program.run (Core.answerDrawing draws) core

namespace Operation

def IsLogin : Operation → Prop
  | .login _ _ => True
  | _ => False

/-- Whether the operation is given a token to look up or to revoke. -/
def Uses (token : String) : Operation → Prop
  | .logout other | .resolve other => other = token
  | _ => False

def IsClockMove : Operation → Prop
  | .setClock _ | .advance _ => True
  | _ => False

/-- How the operation is carried out: by asking questions until it comes to its reply, or at
once. -/
def work : Operation → Program Reply ⊕ (Core → Reply × Core)
  | .register manager user => .inl (Reply.opened <$> (manager.register user).run)
  | .provision manager user role => .inl (Reply.opened <$> (manager.provision user role).run)
  | .login manager credentials => .inl (Reply.issued <$> (manager.login credentials).run)
  | .logout token => .inl (Reply.revoked <$> (Manager.logout token).run)
  | .resolve token => .inl (Reply.identified <$> (Manager.resolve token).run)
  | .setRole id role => .inr fun core =>
      let (result, world) := core.world.setRole id role
      (.roleSet result, world.core)
  | .setClock now => .inr fun core => (.clockMoved (.ok ()), (core.world.setClock now).core)
  | .advance span => .inr fun core =>
      match core.world.advance span with
      | .error error => (.clockMoved (.error error), core)
      | .ok world => (.clockMoved (.ok ()), world.core)

/-- Carry out an operation, alone, with the bytes that it draws. -/
def perform (operation : Operation) (draws : Draws) (core : Core) : Reply × Core :=
  match operation.work with
  | .inl program => core.runDrawing draws program
  | .inr effect => effect core

end Operation

/-- Operations under way: the core, and what remains of every operation that has started. -/
structure Pool (ι : Type) where
  core : Core
  threads : ι → Option (Program Reply)

namespace Pool

variable {ι : Type} [DecidableEq ι]

def idle (core : Core) : Pool ι :=
  ⟨core, fun _ => none⟩

/-- The pool after a step of one operation: another core, and what remains of the operation. -/
def moved (pool : Pool ι) (core : Core) (i : ι) (program : Program Reply) : Pool ι :=
  ⟨core, Function.update pool.threads i (some program)⟩

/-- A step of one operation: it starts, or its next question is answered. An operation that is
carried out at once is over when it has started. -/
def advance (operations : ι → Operation) (draws : ι → Draws) (pool : Pool ι) (i : ι) : Pool ι :=
  match pool.threads i with
  | none =>
      match (operations i).work with
      | .inl program => pool.moved pool.core i program
      | .inr effect =>
          let (reply, core) := effect pool.core
          pool.moved core i (.done reply)
  | some (.done _) => pool
  | some (.ask question resume) =>
      let (answer, core) := pool.core.answerDrawing (draws i) question
      pool.moved core i (resume answer)

def follow (operations : ι → Operation) (draws : ι → Draws) (pool : Pool ι) (schedule : List ι) :
    Pool ι :=
  schedule.foldl (advance operations draws) pool

def HasReturned (pool : Pool ι) (i : ι) : Prop :=
  ∃ reply, pool.threads i = some (.done reply)

variable {pool : Pool ι} {core : Core} {i : ι} {program : Program Reply}

@[simp]
theorem moved_threads_self : (pool.moved core i program).threads i = some program :=
  Function.update_self _ _ _

theorem moved_threads_of_ne {j : ι} (different : j ≠ i) :
    (pool.moved core i program).threads j = pool.threads j :=
  Function.update_of_ne different _ _

variable {operations : ι → Operation} {draws : ι → Draws}

theorem advance_of_program (idle : pool.threads i = none)
    (works : (operations i).work = .inl program) :
    pool.advance operations draws i = pool.moved pool.core i program := by
  simp only [advance, idle, works]

theorem advance_of_effect {effect : Core → Reply × Core} (idle : pool.threads i = none)
    (works : (operations i).work = .inr effect) :
    pool.advance operations draws i =
      pool.moved (effect pool.core).2 i (.done (effect pool.core).1) := by
  simp only [advance, idle, works]

theorem advance_of_done {reply : Reply} (finished : pool.threads i = some (.done reply)) :
    pool.advance operations draws i = pool := by
  simp only [advance, finished]

theorem advance_of_ask {question : Question} {resume : question.Answer → Program Reply}
    (asks : pool.threads i = some (.ask question resume)) :
    pool.advance operations draws i =
      pool.moved (pool.core.answerDrawing (draws i) question).2 i
        (resume (pool.core.answerDrawing (draws i) question).1) := by
  simp only [advance, asks]

theorem HasReturned.moved {j : ι} (returned : pool.HasReturned j)
    (unfinished : ¬ pool.HasReturned i) : (pool.moved core i program).HasReturned j := by
  have different : j ≠ i := by
    rintro rfl
    exact unfinished returned
  obtain ⟨reply, finished⟩ := returned
  exact ⟨reply, (moved_threads_of_ne different).trans finished⟩

/-! ## What steps change -/

theorem follow_concat (schedule : List ι) (i : ι) :
    pool.follow operations draws (schedule ++ [i]) =
      (pool.follow operations draws schedule).advance operations draws i := by
  rw [follow, List.foldl_append]
  rfl

theorem advance_threads_of_ne {j : ι} (different : j ≠ i) :
    (pool.advance operations draws i).threads j = pool.threads j := by
  cases remains : pool.threads i with
  | none =>
      cases works : (operations i).work with
      | inl program =>
          rw [advance_of_program remains works]
          exact moved_threads_of_ne different
      | inr effect =>
          rw [advance_of_effect remains works]
          exact moved_threads_of_ne different
  | some program =>
      cases program with
      | done reply => rw [advance_of_done remains]
      | ask question resume =>
          rw [advance_of_ask remains]
          exact moved_threads_of_ne different

theorem advance_threads_self : (pool.advance operations draws i).threads i ≠ none := by
  cases remains : pool.threads i with
  | none =>
      cases works : (operations i).work with
      | inl program => simp [advance_of_program remains works]
      | inr effect => simp [advance_of_effect remains works]
  | some program =>
      cases program with
      | done reply => simp [advance_of_done remains, remains]
      | ask question resume => simp [advance_of_ask remains]

theorem HasReturned.advance {j : ι} (returned : pool.HasReturned j) (i : ι) :
    (pool.advance operations draws i).HasReturned j := by
  obtain ⟨reply, finished⟩ := returned
  by_cases same : j = i
  · subst same
    rw [advance_of_done finished]
    exact ⟨reply, finished⟩
  · exact ⟨reply, (advance_threads_of_ne same).trans finished⟩

theorem HasReturned.follow {j : ι} (returned : pool.HasReturned j) (schedule : List ι) :
    (pool.follow operations draws schedule).HasReturned j := by
  induction schedule generalizing pool with
  | nil => exact returned
  | cons i rest ih => exact ih (returned.advance i)

/-- An operation has started when it has had a step. -/
theorem threads_follow_idle_eq_none_iff {schedule : List ι} :
    ((idle core).follow operations draws schedule).threads i = none ↔ i ∉ schedule := by
  induction schedule using List.reverseRecOn with
  | nil => simp [follow, idle]
  | append_singleton schedule last ih =>
      rw [follow_concat]
      by_cases same : i = last
      · subst same
        simp [advance_threads_self]
      · rw [advance_threads_of_ne same, ih]
        simp [same]

end Pool

/-- Operations carried out one after another, with what they come to. -/
inductive Sequentially {ι : Type} (operations : ι → Operation) (draws : ι → Draws) :
    Core → List (ι × Reply) → Core → Prop where
  | nil (core : Core) : Sequentially operations draws core [] core
  | cons {core next finish : Core} {i : ι} {reply : Reply} {rest : List (ι × Reply)}
      (performed : (operations i).perform (draws i) core = (reply, next))
      (later : Sequentially operations draws next rest finish) :
      Sequentially operations draws core ((i, reply) :: rest) finish

theorem Sequentially.concat {ι : Type} {operations : ι → Operation} {draws : ι → Draws}
    {core finish next : Core} {order : List (ι × Reply)} {i : ι} {reply : Reply}
    (before : Sequentially operations draws core order finish)
    (performed : (operations i).perform (draws i) finish = (reply, next)) :
    Sequentially operations draws core (order ++ [(i, reply)]) next := by
  induction before with
  | nil core => exact .cons performed (.nil next)
  | cons first later ih => exact .cons first (ih performed)

end SessionGate
