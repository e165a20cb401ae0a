import SessionGate.Accounts
import SessionGate.Errors
import SessionGate.Events
import SessionGate.Token

/-!
# Programs over the surroundings

An operation of the service is a program: a tree of questions to its surroundings and a value at
the end of every branch. The surroundings are the two stores, the clock, the random source and
the log. One question is one atomic step, so programs interleave between questions and may be
run against stores that answer whatever they like.
-/

namespace SessionGate

open Time

/-- The random bytes that a password record starts with. -/
abbrev Salt := Vector UInt8 8

inductive Question where
  | findUser (email : String)
  | emailTaken (email : String)
  | insertUser (row : UserRow)
  | putSession (token : String) (identity : Identity) (lifetime : Lifetime)
  | deleteSession (token : String)
  | getSession (token : String)
  | readClock
  | drawSalt
  | drawToken
  | log (event : Event)
  deriving DecidableEq

/-- The answers to a question. The random source may have nothing to give, and reports why. -/
@[reducible] def Question.Answer : Question → Type
  | .findUser _ => Except AuthError User
  | .emailTaken _ => Except AuthError Bool
  | .insertUser _ => Except AuthError UserId
  | .putSession _ _ _ => Except AuthError Unit
  | .deleteSession _ => Except AuthError Unit
  | .getSession _ => Except AuthError Identity
  | .readClock => Instant
  | .drawSalt => Except String Salt
  | .drawToken => Except String TokenBytes
  | .log _ => Unit

/-- Whether a question goes to one of the stores. -/
def Question.isStoreCall : Question → Bool
  | .findUser _ | .emailTaken _ | .insertUser _ => true
  | .putSession _ _ _ | .deleteSession _ | .getSession _ => true
  | .readClock | .drawSalt | .drawToken | .log _ => false

/-- A program that ends with a value. -/
inductive Program (α : Type) where
  | done (value : α)
  | ask (question : Question) (resume : question.Answer → Program α)

namespace Program

variable {α β γ : Type}

/-- Go on with the value of a program. -/
def bind : Program α → (α → Program β) → Program β
  | .done value, next => next value
  | .ask question resume, next => .ask question fun answer => (resume answer).bind next

instance : Monad Program where
  pure := .done
  bind := bind

@[simp] theorem bind_done (value : α) (next : α → Program β) :
    (done value >>= next) = next value :=
  rfl

@[simp] theorem bind_ask (question : Question) (resume : question.Answer → Program α)
    (next : α → Program β) :
    (ask question resume >>= next) = ask question fun answer => resume answer >>= next :=
  rfl

theorem bind_assoc (program : Program α) (first : α → Program β) (second : β → Program γ) :
    (program >>= first >>= second) = program >>= fun value => first value >>= second := by
  induction program with
  | done value => rfl
  | ask question resume ih =>
      simp only [bind_ask]
      exact congrArg (ask question) (funext ih)

theorem bind_pure (program : Program α) : (program >>= pure) = program := by
  induction program with
  | done value => rfl
  | ask question resume ih =>
      simp only [bind_ask]
      exact congrArg (ask question) (funext ih)

instance : LawfulMonad Program :=
  LawfulMonad.mk' _ bind_pure (fun _ _ => rfl) bind_assoc

def query (question : Question) : Program question.Answer :=
  .ask question .done

/-- Run a program, each question being answered from a state that it may change. -/
def run {σ : Type} (answer : (question : Question) → σ → question.Answer × σ) :
    Program α → σ → α × σ
  | .done value, state => (value, state)
  | .ask question resume, state =>
      let (reply, state) := answer question state
      (resume reply).run answer state

@[simp] theorem run_done {σ : Type} (answer : (question : Question) → σ → question.Answer × σ)
    (value : α) (state : σ) : (done value).run answer state = (value, state) :=
  rfl

@[simp] theorem run_ask {σ : Type} (answer : (question : Question) → σ → question.Answer × σ)
    (question : Question) (resume : question.Answer → Program α) (state : σ) :
    (ask question resume).run answer state =
      (resume (answer question state).1).run answer (answer question state).2 :=
  rfl

theorem run_bind {σ : Type} (answer : (question : Question) → σ → question.Answer × σ)
    (program : Program α) (next : α → Program β) (state : σ) :
    (program >>= next).run answer state =
      (next (program.run answer state).1).run answer (program.run answer state).2 := by
  induction program generalizing state with
  | done value => rfl
  | ask question resume ih => simp only [bind_ask, run_ask, ih]

end Program

/-- A program that may fail. -/
abbrev Action := ExceptT AuthError Program

namespace Action

/-- Ask a store; its failure is the failure of the action. -/
def call {α : Type} (program : Program (Except AuthError α)) : Action α :=
  program

/-- Run a program that does not fail. -/
def perform {α : Type} (program : Program α) : Action α :=
  ExceptT.lift program

def findUser (email : String) : Action User :=
  call (Program.query (.findUser email))

def emailTaken (email : String) : Action Bool :=
  call (Program.query (.emailTaken email))

def insertUser (row : UserRow) : Action UserId :=
  call (Program.query (.insertUser row))

def putSession (token : String) (identity : Identity) (lifetime : Lifetime) : Action Unit :=
  call (Program.query (.putSession token identity lifetime))

def deleteSession (token : String) : Action Unit :=
  call (Program.query (.deleteSession token))

def getSession (token : String) : Action Identity :=
  call (Program.query (.getSession token))

def readClock : Action Instant :=
  perform (Program.query .readClock)

/-- Draw from the random source. Where it has nothing to give, its report is a fault. -/
def draw {α : Type} (program : Program (Except String α)) (fault : String → Fault) : Action α :=
  call do
    let drawn ← program
    return drawn.mapError fun report => .internal (fault report)

def drawSalt : Action Salt :=
  draw (Program.query .drawSalt) .saltDraw

def drawToken : Action TokenBytes :=
  draw (Program.query .drawToken) .tokenDraw

def log (event : Event) : Action Unit :=
  perform (Program.query (.log event))

end Action

def Program.logService (level : Level) (message : String) (fields : List (String × String)) :
    Program Unit :=
  Program.query (.log (.service level message fields))

def Action.logService (level : Level) (message : String) (fields : List (String × String)) :
    Action Unit :=
  Action.log (.service level message fields)

end SessionGate
