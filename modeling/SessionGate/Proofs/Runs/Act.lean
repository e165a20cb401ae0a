import SessionGate.Http.Router
import SessionGate.Proofs.Sessions.Deeds

/-!
# Acts and runs

An act is anything that is done to a service or to its stores: a call on the session rules, a
request, work on the stores directly, a change of a role, a move of the clock. A run does acts one
after another and collects their answers. Only moves of the clock change the clock, and nothing
changes what condition the stores are in.
-/

namespace SessionGate

open Time Http

@[reducible] def Call.Answer : Call → Type
  | .register _ _ | .provision _ _ _ => Except AuthError UserId
  | .login _ _ => Except AuthError (Session × UserId)
  | .logout _ => Except AuthError Unit
  | .resolve _ | .authenticate _ => Except AuthError Identity
  | .sweep => Nat

def Call.perform : (call : Call) → World → call.Answer × World
  | .register manager user, world => world.attempt (manager.register user)
  | .provision manager user role, world => world.attempt (manager.provision user role)
  | .login manager credentials, world => world.attempt (manager.login credentials)
  | .logout token, world => world.attempt (Manager.logout token)
  | .resolve token, world => world.attempt (Manager.resolve token)
  | .authenticate carrier, world => world.attempt (Gate.authenticate carrier)
  | .sweep, world => world.sweep

/-- Something that is done to a service or to its stores. A request brings along the router that
answers it. -/
inductive Act where
  | made (call : Call)
  | requested (router : Router) (manager : Manager) (request : Request)
  | findUser (email : String)
  | insertUser (row : UserRow)
  | setRole (id : UserId) (role : Role)
  | putSession (token : String) (identity : Identity) (lifetime : Lifetime)
  | getSession (token : String)
  | deleteSession (token : String)
  | setEntry (key : String) (value : Octets) (lifetime : Option Lifetime)
  | getEntry (key : String)
  | deleteEntry (key : String)
  | countEntries
  | setClock (now : Instant)
  | advance (span : Span)

namespace Act

@[reducible] def Answer : Act → Type
  | .made call => call.Answer
  | .requested _ _ _ => Response
  | .findUser _ => Except AuthError User
  | .insertUser _ => Except AuthError UserId
  | .setRole _ _ | .putSession _ _ _ | .deleteSession _ | .setEntry _ _ _ => Except AuthError Unit
  | .getSession _ => Except AuthError Identity
  | .getEntry _ => Option Octets
  | .deleteEntry _ => Bool
  | .countEntries => Nat
  | .setClock _ => Unit
  | .advance _ => Except ClockError Instant

def perform : (act : Act) → World → act.Answer × World
  | .made call, world => call.perform world
  | .requested router manager request, world => world.run (router.answer manager request)
  | .findUser email, world => world.findUser email
  | .insertUser row, world => world.insertUser row
  | .setRole id role, world => world.setRole id role
  | .putSession token identity lifetime, world => world.putSession token identity lifetime
  | .getSession token, world => world.getSession token
  | .deleteSession token, world => world.deleteSession token
  | .setEntry key value lifetime, world => world.setEntry key value lifetime
  | .getEntry key, world => world.getEntry key
  | .deleteEntry key, world => world.deleteEntry key
  | .countEntries, world => (world.sessions.size, world)
  | .setClock now, world => ((), world.setClock now)
  | .advance span, world =>
      match world.advance span with
      | .ok moved => (.ok moved.now, moved)
      | .error error => (.error error, world)

def isSweep : Act → Bool
  | .made .sweep => true
  | _ => false

/-- What the clock shows after an act, from what it showed before. -/
def clock (now : Instant) : Act → Instant
  | .setClock later => later
  | .advance span => (now.add? span).getD now
  | _ => now

/-- The act does not set the clock to an instant in a leap second. -/
def IsPlain : Act → Prop
  | .setClock now => now.isLeap = false
  | _ => True

theorem clock_isLeap {act : Act} {now : Instant} (plain : act.IsPlain)
    (nowPlain : now.isLeap = false) : (act.clock now).isLeap = false := by
  cases act with
  | setClock later => exact plain
  | advance span =>
      rw [clock]
      cases sum : now.add? span with
      | none => exact nowPlain
      | some later => exact Instant.isLeap_of_add? nowPlain sum
  | _ => exact nowPlain

end Act

/-- An act with its answer. -/
abbrev Exchange := Σ act : Act, act.Answer

/-- The clock never goes backward in a run. -/
def NeverBack (now : Instant) : List Act → Prop
  | [] => True
  | act :: acts => now ≤ act.clock now ∧ NeverBack (act.clock now) acts

namespace World

def enact (world : World) (acts : List Act) : World :=
  acts.foldl (fun world act => (act.perform world).2) world

def exchanges (world : World) : List Act → List Exchange
  | [] => []
  | act :: acts => ⟨act, (act.perform world).1⟩ :: exchanges (act.perform world).2 acts

@[simp]
theorem enact_nil (world : World) : world.enact [] = world :=
  rfl

@[simp]
theorem enact_cons (world : World) (act : Act) (acts : List Act) :
    world.enact (act :: acts) = (act.perform world).2.enact acts :=
  rfl

theorem enact_append (world : World) (first second : List Act) :
    world.enact (first ++ second) = (world.enact first).enact second :=
  List.foldl_append

/-- What holds at first and is kept by every act of a kind holds after a run of such acts. -/
theorem enact_induction {allowed : Act → Prop} (invariant : World → Prop)
    (keeps : ∀ act world, allowed act → invariant world → invariant (act.perform world).2)
    {world : World} (initially : invariant world) {acts : List Act}
    (all : ∀ act ∈ acts, allowed act) : invariant (world.enact acts) := by
  induction acts generalizing world with
  | nil => exact initially
  | cons act acts ih =>
      exact ih (keeps act world (all act List.mem_cons_self) initially) fun later member =>
        all later (List.mem_cons_of_mem _ member)

@[simp]
theorem exchanges_nil (world : World) : world.exchanges [] = [] :=
  rfl

@[simp]
theorem exchanges_cons (world : World) (act : Act) (acts : List Act) :
    world.exchanges (act :: acts) =
      ⟨act, (act.perform world).1⟩ :: (act.perform world).2.exchanges acts :=
  rfl

end World

namespace Core

theorem Precedes.trans {first second third : Core} (before : first.Precedes second)
    (after : second.Precedes third) : first.Precedes third where
  now := after.now.trans before.now
  userStore := after.userStore.trans before.userStore
  sessionStore := after.sessionStore.trans before.sessionStore
  tokens := after.tokens.trans before.tokens
  tokensGiven := Nat.le_trans before.tokensGiven after.tokensGiven

end Core

namespace World

variable {world : World}

/-! ## Tokens as keys -/

theorem putSession_of_blank {token : String} (blank : token.isEmpty = true) (identity : Identity)
    (lifetime : Lifetime) (world : World) :
    world.putSession token identity lifetime = (.error .invalidToken, world) :=
  if_pos blank

theorem getSession_of_blank {token : String} (blank : token.isEmpty = true) (world : World) :
    world.getSession token = (.error .invalidToken, world) :=
  if_pos blank

theorem deleteSession_of_blank {token : String} (blank : token.isEmpty = true) (world : World) :
    world.deleteSession token = (.error .invalidToken, world) :=
  if_pos blank

theorem putSession_fst {token : String} (notBlank : token.isEmpty = false) (identity : Identity)
    (lifetime : Lifetime) (world : World) :
    (world.putSession token identity lifetime).1 =
      (world.setEntry token identity.encode (some lifetime)).1 := by
  rw [putSession, notBlank]
  rcases world.setEntry token identity.encode (some lifetime) with ⟨_ | _, after⟩ <;> rfl

theorem core_putSession {token : String} (notBlank : token.isEmpty = false) (identity : Identity)
    (lifetime : Lifetime) (world : World) :
    (world.putSession token identity lifetime).2.core =
      (world.setEntry token identity.encode (some lifetime)).2.core := by
  rw [putSession, notBlank]
  rcases world.setEntry token identity.encode (some lifetime) with ⟨_ | _, after⟩ <;> rfl

theorem getSession_of_notBlank {token : String} (notBlank : token.isEmpty = false)
    (world : World) :
    world.getSession token =
      (Core.identityOf (world.getEntry token).1, (world.getEntry token).2) := by
  rw [getSession, notBlank]
  rcases world.getEntry token with ⟨_ | octets, after⟩
  · rfl
  · simp only [Core.identityOf, Bool.false_eq_true, if_false]
    cases Identity.decode octets <;> rfl

theorem deleteSession_fst {token : String} (notBlank : token.isEmpty = false) (world : World) :
    (world.deleteSession token).1 = .ok () := by
  rw [deleteSession, notBlank]
  rfl

theorem core_deleteSession {token : String} (notBlank : token.isEmpty = false) (world : World) :
    (world.deleteSession token).2.core = (world.deleteEntry token).2.core := by
  rw [deleteSession, notBlank]
  rfl

/-! ## What no act changes -/

theorem precedes_of_eq {after : World} (now : after.now = world.now)
    (userStore : after.userStore = world.userStore)
    (sessionStore : after.sessionStore = world.sessionStore)
    (random : after.random = world.random) : world.core.Precedes after.core where
  now := now
  userStore := userStore
  sessionStore := sessionStore
  tokens := congrArg RandomSource.tokens random
  tokensGiven := Nat.le_of_eq (congrArg RandomSource.tokensGiven random).symm

theorem precedes_findUser (email : String) (world : World) :
    world.core.Precedes (world.findUser email).2.core := by
  rw [findUser]
  cases world.users.find? email <;> exact precedes_of_eq rfl rfl rfl rfl

theorem precedes_insertUser (row : UserRow) (world : World) :
    world.core.Precedes (world.insertUser row).2.core := by
  rw [insertUser]
  cases world.users.insert row <;> exact precedes_of_eq rfl rfl rfl rfl

theorem precedes_setEntry (key : String) (value : Octets) (lifetime : Option Lifetime)
    (world : World) : world.core.Precedes (world.setEntry key value lifetime).2.core := by
  rw [setEntry]
  cases world.sessions.set world.now key value lifetime <;> exact precedes_of_eq rfl rfl rfl rfl

theorem precedes_putSession (token : String) (identity : Identity) (lifetime : Lifetime)
    (world : World) : world.core.Precedes (world.putSession token identity lifetime).2.core := by
  cases blank : token.isEmpty with
  | true =>
      rw [putSession_of_blank blank]
      exact .refl _
  | false =>
      rw [core_putSession blank]
      exact precedes_setEntry token identity.encode (some lifetime) world

theorem precedes_deleteSession (token : String) (world : World) :
    world.core.Precedes (world.deleteSession token).2.core := by
  cases blank : token.isEmpty with
  | true =>
      rw [deleteSession_of_blank blank]
      exact .refl _
  | false =>
      rw [core_deleteSession blank]
      exact precedes_of_eq rfl rfl rfl rfl

theorem precedes_getSession (token : String) (world : World) :
    world.core.Precedes (world.getSession token).2.core := by
  cases blank : token.isEmpty with
  | true =>
      rw [getSession_of_blank blank]
      exact .refl _
  | false =>
      rw [getSession_of_notBlank blank]
      exact precedes_of_eq rfl rfl rfl rfl

/-- A store that is not sound answers without a change, or as a sound one does. -/
theorem viaUserStore_snd {α : Type} (world : World) (stale : Option α)
    (sound : World → Except AuthError α × World) :
    (world.viaUserStore stale sound).2 = world ∨
      (world.viaUserStore stale sound).2 = (sound world).2 := by
  unfold viaUserStore
  cases world.userStore <;> cases stale <;> simp

theorem viaSessionStore_snd {α : Type} (world : World) (forgetful : Option α)
    (sound : World → Except AuthError α × World) :
    (world.viaSessionStore forgetful sound).2 = world ∨
      (world.viaSessionStore forgetful sound).2 = (sound world).2 := by
  unfold viaSessionStore
  cases world.sessionStore <;> cases forgetful <;> simp

theorem precedes_viaUserStore {α : Type} {stale : Option α}
    {sound : World → Except AuthError α × World}
    (precedes : world.core.Precedes (sound world).2.core) :
    world.core.Precedes (world.viaUserStore stale sound).2.core := by
  rcases viaUserStore_snd world stale sound with same | same <;> rw [same]
  · exact .refl _
  · exact precedes

theorem precedes_viaSessionStore {α : Type} {forgetful : Option α}
    {sound : World → Except AuthError α × World}
    (precedes : world.core.Precedes (sound world).2.core) :
    world.core.Precedes (world.viaSessionStore forgetful sound).2.core := by
  rcases viaSessionStore_snd world forgetful sound with same | same <;> rw [same]
  · exact .refl _
  · exact precedes

theorem precedes_reply (question : Question) (world : World) :
    world.core.Precedes (world.reply question).2.core := by
  cases question with
  | findUser email => exact precedes_viaUserStore (precedes_findUser email world)
  | emailTaken email => exact precedes_viaUserStore (.refl _)
  | insertUser row => exact precedes_viaUserStore (precedes_insertUser row world)
  | putSession token identity lifetime =>
      exact precedes_viaSessionStore (precedes_putSession token identity lifetime world)
  | deleteSession token => exact precedes_viaSessionStore (precedes_deleteSession token world)
  | getSession token => exact precedes_viaSessionStore (precedes_getSession token world)
  | readClock | log event => exact .refl _
  | drawSalt => exact ⟨rfl, rfl, rfl, rfl, Nat.le_refl _⟩
  | drawToken => exact ⟨rfl, rfl, rfl, rfl, Nat.le_succ _⟩

theorem core_noted (question : Question) (world : World) :
    (world.noted question).core = world.core := by
  rw [noted]
  split <;> rfl

theorem precedes_answer (question : Question) (world : World) :
    world.core.Precedes (world.answer question).2.core :=
  core_noted question world ▸ precedes_reply question (world.noted question)

/-- A program leaves the clock and the condition of the stores alone, whatever they answer. -/
theorem precedes_run {α : Type} (program : Program α) (world : World) :
    world.core.Precedes (world.run program).2.core := by
  induction program generalizing world with
  | done value => exact .refl _
  | ask question resume ih =>
      exact (precedes_answer question world).trans (ih _ (world.answer question).2)

theorem precedes_call (call : Call) (world : World) :
    world.core.Precedes (call.perform world).2.core := by
  cases call with
  | sweep => exact precedes_of_eq rfl rfl rfl rfl
  | _ => exact precedes_run _ world

/-- What an act makes of the clock and of the condition of the stores. -/
theorem precedes_perform (act : Act) (world : World) :
    { world.core with now := act.clock world.now }.Precedes (act.perform world).2.core := by
  cases act with
  | made call => exact precedes_call call world
  | requested router manager request => exact precedes_run _ world
  | findUser email => exact precedes_findUser email world
  | insertUser row => exact precedes_insertUser row world
  | setRole id role =>
      change world.core.Precedes (world.setRole id role).2.core
      rw [setRole]
      cases world.users.setRole id role <;> exact precedes_of_eq rfl rfl rfl rfl
  | putSession token identity lifetime =>
      exact precedes_putSession token identity lifetime world
  | getSession token => exact precedes_getSession token world
  | deleteSession token => exact precedes_deleteSession token world
  | setEntry key value lifetime => exact precedes_setEntry key value lifetime world
  | getEntry key | deleteEntry key | countEntries => exact precedes_of_eq rfl rfl rfl rfl
  | setClock now => exact ⟨rfl, rfl, rfl, rfl, Nat.le_refl _⟩
  | advance span =>
      simp only [Act.perform, Act.clock, World.advance]
      cases world.now.add? span <;> exact ⟨rfl, rfl, rfl, rfl, Nat.le_refl _⟩

@[simp]
theorem perform_now (act : Act) (world : World) :
    (act.perform world).2.now = act.clock world.now :=
  (precedes_perform act world).now

end World

end SessionGate
