import SessionGate.Payload
import SessionGate.Program
import SessionGate.Store.ExpiringMap
import SessionGate.Store.UserTable

/-!
# The world a service runs in

A world holds the clock, both stores, the random source and a journal of store calls and log
events. It answers the questions of programs, and its stores can be worked on directly. Each
store may be in a condition in which it does not do what it should.
-/

namespace SessionGate

open Time

/-- What the journal notes: a question that went to a store, or an event. -/
inductive JournalEntry where
  | called (question : Question)
  | logged (event : Event)
  deriving DecidableEq

/-- How the store of accounts behaves: as it should, with a look-up that never finds an address
taken, or failing every call with a report. -/
inductive UserStoreCondition where
  | sound
  | stale
  | failing (report : String)
  deriving DecidableEq, Repr

/-- How the store of sessions behaves: as it should, keeping nothing and taking every token for
nobody's, or failing every call with a report. -/
inductive SessionStoreCondition where
  | sound
  | forgetful
  | failing (report : String)
  deriving DecidableEq, Repr

/-- Why the clock cannot be moved. -/
inductive ClockError where
  | outOfRange
  deriving DecidableEq, Repr

def ClockError.message : ClockError → String
  | .outOfRange => "`DateTime + TimeDelta` overflowed"

/-- A random source that works: all salts and tokens it will ever give, and how many it has
given. -/
structure RandomSource where
  salts : Nat → Salt
  tokens : Nat → TokenBytes
  saltsGiven : Nat
  tokensGiven : Nat

structure World where
  now : Instant
  users : UserTable
  sessions : ExpiringMap
  random : RandomSource
  userStore : UserStoreCondition
  sessionStore : SessionStoreCondition
  journal : List JournalEntry

namespace World

/-- A world with empty, sound stores. -/
def start (now : Instant) (salts : Nat → Salt) (tokens : Nat → TokenBytes) : World :=
  ⟨now, .empty, .empty, ⟨salts, tokens, 0, 0⟩, .sound, .sound, []⟩

def logged (world : World) (event : Event) : World :=
  { world with journal := world.journal ++ [.logged event] }

/-- Note an event of a store. -/
def loggedByStore (world : World) (message : String) (fields : List (String × String)) : World :=
  world.logged (.service .debug message fields)

/-- The store calls of the journal, in order. -/
def calls (world : World) : List Question :=
  world.journal.filterMap fun
    | .called question => some question
    | .logged _ => none

def events (world : World) : List Event :=
  world.journal.filterMap fun
    | .called _ => none
    | .logged event => some event

theorem events_logged (event : Event) (world : World) :
    (world.logged event).events = world.events ++ [event] := by
  simp [events, logged]

/-! ## The clock -/

def setClock (world : World) (now : Instant) : World :=
  { world with now }

/-- Move the clock by a span, unless it would leave the range of instants. -/
def advance (world : World) (span : Span) : Except ClockError World :=
  match world.now.add? span with
  | some now => .ok (world.setClock now)
  | none => .error .outOfRange

/-! ## The stores -/

def findUser (email : String) (world : World) : Except AuthError User × World :=
  match world.users.find? email with
  | some user => (.ok user, world)
  | none => (.error .notFound, world.loggedByStore "user lookup missed" [("email", email)])

def insertUser (row : UserRow) (world : World) : Except AuthError UserId × World :=
  match world.users.insert row with
  | .error error => (.error error, world)
  | .ok (id, users) =>
      (.ok id,
        { world with users }.loggedByStore "user inserted" [("id", Decimal.text id.toInt)])

def setRole (id : UserId) (role : Role) (world : World) : Except AuthError Unit × World :=
  match world.users.setRole id role with
  | .error error => (.error error, world)
  | .ok users => (.ok (), { world with users })

def setEntry (key : String) (value : Octets) (lifetime : Option Lifetime) (world : World) :
    Except AuthError Unit × World :=
  match world.sessions.set world.now key value lifetime with
  | .error error => (.error error, world)
  | .ok sessions => (.ok (), { world with sessions })

def getEntry (key : String) (world : World) : Option Octets × World :=
  let (value, sessions) := world.sessions.get world.now key
  (value, { world with sessions })

/-- Remove an entry, and tell whether it was there. -/
def deleteEntry (key : String) (world : World) : Bool × World :=
  let (existed, sessions) := world.sessions.delete key
  (existed, { world with sessions })

/-- Remove all expired entries, and count them. -/
def sweep (world : World) : Nat × World :=
  let (count, sessions) := world.sessions.sweep world.now
  (count, { world with sessions })

def putSession (token : String) (identity : Identity) (lifetime : Lifetime) (world : World) :
    Except AuthError Unit × World :=
  if token.isEmpty then (.error .invalidToken, world)
  else match world.setEntry token identity.encode (some lifetime) with
    | (.error error, world) => (.error error, world)
    | (.ok (), world) =>
        (.ok (),
          world.loggedByStore "session stored"
            [("user_id", Decimal.text identity.userId.toInt),
              ("ttl_secs", Decimal.text lifetime.wholeSeconds)])

/-- Forget a token; one that is not there is forgotten already. -/
def deleteSession (token : String) (world : World) : Except AuthError Unit × World :=
  if token.isEmpty then (.error .invalidToken, world)
  else
    let (existed, world) := world.deleteEntry token
    (.ok (),
      world.loggedByStore "session deleted" [("existed", if existed then "true" else "false")])

def getSession (token : String) (world : World) : Except AuthError Identity × World :=
  if token.isEmpty then (.error .invalidToken, world)
  else match world.getEntry token with
    | (none, world) => (.error .notFound, world)
    | (some octets, world) =>
        match Identity.decode octets with
        | .ok identity => (.ok identity, world)
        | .error error => (.error (.internal (.undecodableEntry error)), world)

/-! ## Questions -/

/-- Answer a question to the store of accounts in its condition, or do what a sound store
does. -/
def viaUserStore {α : Type} (world : World) (stale : Option α)
    (sound : World → Except AuthError α × World) : Except AuthError α × World :=
  match world.userStore with
  | .failing report => (.error (.internal (.reported report)), world)
  | .stale =>
      match stale with
      | some answer => (.ok answer, world)
      | none => sound world
  | .sound => sound world

/-- Answer a question to the store of sessions in its condition, or do what a sound store
does. -/
def viaSessionStore {α : Type} (world : World) (forgetful : Option α)
    (sound : World → Except AuthError α × World) : Except AuthError α × World :=
  match world.sessionStore with
  | .failing report => (.error (.internal (.reported report)), world)
  | .forgetful =>
      match forgetful with
      | some answer => (.ok answer, world)
      | none => sound world
  | .sound => sound world

def noted (world : World) (question : Question) : World :=
  if question.isStoreCall then
    { world with journal := world.journal ++ [.called question] }
  else world

/-- Answer a question that has been noted. -/
def reply (world : World) : (question : Question) → question.Answer × World
  | .findUser email => world.viaUserStore none (findUser email)
  | .emailTaken email =>
      world.viaUserStore (some false) fun world => (.ok (world.users.contains email), world)
  | .insertUser row => world.viaUserStore none (insertUser row)
  | .putSession token identity lifetime =>
      world.viaSessionStore (some ()) (putSession token identity lifetime)
  | .deleteSession token => world.viaSessionStore none (deleteSession token)
  | .getSession token => world.viaSessionStore (some ⟨0, .user⟩) (getSession token)
  | .readClock => (world.now, world)
  | .drawSalt =>
      let random := world.random
      (.ok (random.salts random.saltsGiven),
        { world with random := { random with saltsGiven := random.saltsGiven + 1 } })
  | .drawToken =>
      let random := world.random
      (.ok (random.tokens random.tokensGiven),
        { world with random := { random with tokensGiven := random.tokensGiven + 1 } })
  | .log event => ((), world.logged event)

def answer (question : Question) (world : World) : question.Answer × World :=
  (world.noted question).reply question

def run {α : Type} (program : Program α) (world : World) : α × World :=
  program.run answer world

def attempt {α : Type} (action : Action α) (world : World) : Except AuthError α × World :=
  world.run action

end World

end SessionGate
