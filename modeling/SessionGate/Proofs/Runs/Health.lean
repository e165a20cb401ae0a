import SessionGate.Proofs.Http.Coherence
import SessionGate.Proofs.Http.Health

/-!
# Healthy runs

A run of requests, calls, work on accounts, sweeps and moves of the clock meets no fault of the
server, as long as the passwords to be hashed are not too long and every session that a login opens
has an end. No entry of such a run is unreadable, no password record does harm, and every session
can be handed out.
-/

namespace SessionGate

open Time Http

/-- The act writes bytes to the store of sessions that may speak for nobody. -/
def Act.IsRawWrite : Act → Prop
  | .setEntry _ _ _ => True
  | _ => False

/-- The act is none that writes to the store of sessions directly, and its calls are fit. -/
def Act.IsFit (world : World) : Act → Prop
  | .made call => call.IsFit world.now
  | .requested router manager request =>
      router = .standard ∧ ∀ deed ∈ requestDeeds [] manager request world, deed.IsFit
  | .putSession _ _ _ | .setEntry _ _ _ => False
  | _ => True

theorem Act.IsFit.not_isRawWrite {act : Act} {world : World} (fit : act.IsFit world) :
    ¬ act.IsRawWrite := by
  rcases act
  case setEntry => exact fit.elim
  all_goals exact not_false

/-- Every act of the run is fit where it is done. -/
def World.Fits : World → List Act → Prop
  | _, [] => True
  | world, act :: acts => act.IsFit world ∧ (act.perform world).2.Fits acts

/-- The answer is no fault of the server. -/
def Call.IsFaultless : (call : Call) → call.Answer → Prop
  | .register _ _, result | .provision _ _ _, result => SessionGate.IsFaultless result
  | .login _ _, result => SessionGate.IsFaultless result
  | .logout _, result => SessionGate.IsFaultless result
  | .resolve _, result | .authenticate _, result => SessionGate.IsFaultless result
  | .sweep, _ => True

/-- The answer is no fault of the server, and no response tells of one. -/
def Exchange.IsFaultless : Exchange → Prop
  | ⟨.made call, answer⟩ => call.IsFaultless answer
  | ⟨.requested _ _ _, response⟩ => response.IsFaultless
  | ⟨.findUser _, result⟩ => SessionGate.IsFaultless result
  | ⟨.insertUser _, result⟩ => SessionGate.IsFaultless result
  | ⟨.setRole _ _, result⟩ | ⟨.putSession _ _ _, result⟩ => SessionGate.IsFaultless result
  | ⟨.deleteSession _, result⟩ | ⟨.setEntry _ _ _, result⟩ => SessionGate.IsFaultless result
  | ⟨.getSession _, result⟩ => SessionGate.IsFaultless result
  | ⟨.getEntry _, _⟩ | ⟨.deleteEntry _, _⟩ | ⟨.countEntries, _⟩ => True
  | ⟨.setClock _, _⟩ | ⟨.advance _, _⟩ => True

/-! ## Acts -/

namespace World

variable {world : World} {act : Act}

theorem healthy_setEntry (healthy : world.core.Healthy) (key : String) (identity : Identity)
    (lifetime : Option Lifetime) :
    (world.setEntry key identity.encode lifetime).2.core.Healthy := by
  rw [setEntry]
  cases stored : world.sessions.set world.now key identity.encode lifetime with
  | error error => exact healthy
  | ok sessions => exact healthy.set stored

/-- Only bytes that are written directly may speak for nobody. -/
theorem healthy_perform (notRaw : ¬ act.IsRawWrite) (healthy : world.core.Healthy) :
    (act.perform world).2.core.Healthy := by
  have removed (key : String) : (world.deleteEntry key).2.core.Healthy := healthy.erase key
  have looked (key : String) : (world.getEntry key).2.core.Healthy := healthy.get key
  cases act with
  | made call =>
      cases call with
      | sweep =>
          refine healthy.of_fewer rfl rfl fun key entry found => ?_
          change (world.sessions.sweep world.now).2.find? key = some entry at found
          rw [ExpiringMap.find?_sweep] at found
          exact (ExpiringMap.live?_eq_some_iff.mp found).1
      | _ =>
          change (world.run _).2.core.Healthy
          rw [core_run_snd]
          exact healthy.run _
  | requested router manager request =>
      change (world.run (router.answer manager request)).2.core.Healthy
      rw [core_run_snd]
      exact healthy.run _
  | findUser email =>
      change (world.findUser email).2.core.Healthy
      rw [findUser]
      cases world.users.find? email <;> exact healthy
  | insertUser row =>
      change (world.insertUser row).2.core.Healthy
      rw [insertUser]
      cases world.users.insert row with
      | error error => exact healthy
      | ok inserted => exact healthy.of_fewer rfl rfl fun _ _ found => found
  | setRole id role =>
      change (world.setRole id role).2.core.Healthy
      rw [setRole]
      cases world.users.setRole id role with
      | error error => exact healthy
      | ok users => exact healthy.of_fewer rfl rfl fun _ _ found => found
  | putSession token identity lifetime =>
      change (world.putSession token identity lifetime).2.core.Healthy
      cases blank : token.isEmpty with
      | true => rwa [putSession_of_blank blank]
      | false =>
          rw [core_putSession blank]
          exact healthy_setEntry healthy token identity (some lifetime)
  | setEntry key value lifetime => exact absurd trivial notRaw
  | deleteSession token =>
      change (world.deleteSession token).2.core.Healthy
      cases blank : token.isEmpty with
      | true => rwa [deleteSession_of_blank blank]
      | false =>
          rw [core_deleteSession blank]
          exact removed token
  | getSession token =>
      change (world.getSession token).2.core.Healthy
      cases blank : token.isEmpty with
      | true => rwa [getSession_of_blank blank]
      | false =>
          rw [getSession_of_notBlank blank]
          exact looked token
  | getEntry key => exact looked key
  | deleteEntry key => exact removed key
  | countEntries => exact healthy
  | setClock now => exact healthy.of_fewer rfl rfl fun _ _ found => found
  | advance span =>
      simp only [Act.perform, World.advance]
      cases world.now.add? span with
      | none => exact healthy
      | some now => exact healthy.of_fewer rfl rfl fun _ _ found => found

theorem isFaultless_getSession (healthy : world.core.Healthy) (token : String) :
    SessionGate.IsFaultless (world.getSession token).1 := by
  cases blank : token.isEmpty with
  | true =>
      rw [getSession_of_blank blank]
      rintro _ ⟨⟩
  | false =>
      rw [getSession_of_notBlank blank]
      exact healthy.isFaultless_identityOf token

/-- No fit act meets a fault. -/
theorem isFaultless_perform (fit : act.IsFit world) (healthy : world.core.Healthy) :
    Exchange.IsFaultless ⟨act, (act.perform world).1⟩ := by
  cases act with
  | made call =>
      cases call with
      | register manager user =>
          exact (run_fst _ world).symm ▸ healthy.isFaultless_register fit
      | provision manager user role =>
          exact (run_fst _ world).symm ▸ healthy.isFaultless_provision fit role
      | login manager credentials =>
          exact (run_fst _ world).symm ▸ healthy.isFaultless_login fit credentials
      | logout token => exact (run_fst _ world).symm ▸ healthy.isFaultless_logout token
      | resolve token => exact (run_fst _ world).symm ▸ healthy.isFaultless_resolve token
      | authenticate carrier =>
          exact (run_fst _ world).symm ▸ healthy.isFaultless_authenticate carrier
      | sweep => trivial
  | requested router manager request =>
      obtain ⟨rfl, fit⟩ := fit
      exact (run_fst _ world).symm ▸ answer_isFaultless healthy fit
  | findUser email =>
      change SessionGate.IsFaultless (world.findUser email).1
      rw [findUser]
      cases world.users.find? email <;> rintro _ ⟨⟩
  | insertUser row =>
      have faultless := world.users.isFaultless_insert row
      change SessionGate.IsFaultless (world.insertUser row).1
      rw [insertUser]
      revert faultless
      cases world.users.insert row with
      | error error => exact fun faultless => faultless.error
      | ok inserted => exact fun _ => isFaultless_ok _
  | setRole id role =>
      change SessionGate.IsFaultless (world.setRole id role).1
      rw [setRole, UserTable.setRole]
      split
      · rename_i error refused
        split at refused <;> cases refused
        rintro _ ⟨⟩
      · rintro _ ⟨⟩
  | putSession token identity lifetime | setEntry key value lifetime => exact fit.elim
  | deleteSession token =>
      change SessionGate.IsFaultless (world.deleteSession token).1
      cases blank : token.isEmpty with
      | true =>
          rw [deleteSession_of_blank blank]
          rintro _ ⟨⟩
      | false =>
          rw [deleteSession_fst blank]
          exact isFaultless_ok _
  | getSession token => exact isFaultless_getSession healthy token
  | getEntry key | deleteEntry key | countEntries | setClock now | advance span => trivial

/-! ## Runs -/

theorem healthy_enact {acts : List Act} (fits : world.Fits acts) (healthy : world.core.Healthy) :
    (world.enact acts).core.Healthy := by
  induction acts generalizing world with
  | nil => exact healthy
  | cons act acts ih => exact ih fits.2 (healthy_perform fits.1.not_isRawWrite healthy)

theorem isFaultless_of_mem_exchanges {acts : List Act} (fits : world.Fits acts)
    (healthy : world.core.Healthy) :
    ∀ exchange ∈ world.exchanges acts, exchange.IsFaultless := by
  induction acts generalizing world with
  | nil => rintro _ ⟨⟩
  | cons act acts ih =>
      intro exchange member
      rcases List.mem_cons.mp member with rfl | later
      · exact isFaultless_perform fits.1 healthy
      · exact ih fits.2 (healthy_perform fits.1.not_isRawWrite healthy) exchange later

/-- A login with an account whose record cannot be that of any password is refused. -/
theorem attempt_login_of_malformed {manager : Manager} {credentials : Credentials} {user : User}
    (sound : world.core.IsSound) (found : world.users.find? credentials.email = some user)
    (malformed : user.password.octets.length ≠ saltLength + manager.hasher.costs.keyLength) :
    (world.attempt (manager.login credentials)).1 = .error .wrongCredentials := by
  have wrong : ¬ manager.hasher.verifies (Octets.ofText credentials.password) user.password :=
    fun right => malformed (Hasher.length_of_verifies right)
  have known : world.core.users.find? credentials.email = some user := found
  refine (run_fst _ world).trans ?_
  change (world.core.attempt (manager.login credentials)).1 = _
  rw [Core.attempt_login sound, known]
  exact congrArg Prod.fst (if_neg wrong)

/-- A login with the right password fails where no session can be opened. -/
theorem attempt_login_of_unopened {manager : Manager} {credentials : Credentials} {user : User}
    {error : AuthError} (sound : world.core.IsSound)
    (found : world.users.find? credentials.email = some user)
    (right : manager.hasher.verifies (Octets.ofText credentials.password) user.password = true)
    (refused : ∀ token, manager.openSession user world.now token = .error error) :
    (world.attempt (manager.login credentials)).1 = .error error := by
  have known : world.core.users.find? credentials.email = some user := found
  refine (run_fst _ world).trans ?_
  change (world.core.attempt (manager.login credentials)).1 = _
  rw [Core.attempt_login sound, known]
  dsimp only
  rw [if_pos right, Core.issue, core_now, refused]

/-- A service that starts with empty stores meets no fault of its own in a fit run, and no response
tells of one. Every entry can be read, a password record that is none does no harm, and a session
can be handed out whatever its token and its end. -/
theorem fit_runs_are_faultless (now : Instant) (salts : Nat → Salt) (tokens : Nat → TokenBytes)
    {acts : List Act} (fits : (start now salts tokens).Fits acts) :
    (∀ exchange ∈ (start now salts tokens).exchanges acts, exchange.IsFaultless) ∧
    (∀ key entry, ((start now salts tokens).enact acts).sessions.find? key = some entry →
      ∃ identity, Identity.decode entry.value = .ok identity) ∧
    (∀ (manager : Manager) credentials user,
      ((start now salts tokens).enact acts).users.find? credentials.email = some user →
      user.password.octets.length ≠ saltLength + manager.hasher.costs.keyLength →
      (((start now salts tokens).enact acts).attempt (manager.login credentials)).1 =
        .error .wrongCredentials) ∧
    (∀ bytes expires, ∃ octets, Cookie.header (Token.ofBytes bytes) expires = .ok octets) ∧
    (∀ (manager : Manager) (later : Instant), later.isLeap = false →
      (manager.CanOpen later ↔
        (∃ expiresAt, later.add? manager.ttl = some expiresAt) ∧ 0 ≤ manager.ttl.nanos)) := by
  have healthy := healthy_enact fits (Core.Healthy.start now salts tokens)
  refine ⟨isFaultless_of_mem_exchanges fits (.start now salts tokens), fun key entry found => ?_,
    fun manager credentials user found malformed => ?_, fun bytes expires => ?_,
    fun manager later => Manager.canOpen_iff⟩
  · obtain ⟨identity, value⟩ := healthy.entries key entry found
    exact ⟨identity, value ▸ Identity.decode_encode identity⟩
  · exact attempt_login_of_malformed healthy.sound found malformed
  · exact ⟨_, Cookie.header_ofBytes bytes expires⟩

/-! ## A fit run, and one that is not -/

/-- An account is provisioned, its owner logs in, and somebody else tries to register it. -/
def firstActs : List Act :=
  [.made (.provision .cheap ⟨"a@b.c", "b", none⟩ .user), .made (.login .cheap ⟨"a@b.c", "b"⟩),
    .requested .standard .cheap firstRequest]

theorem firstActs_fit (salts : Nat → Salt) (tokens : Nat → TokenBytes) :
    (start .epoch salts tokens).Fits firstActs := by
  have hashable : IsHashable "b" := by
    rw [IsHashable]
    decide
  have canOpen : Manager.cheap.CanOpen .epoch := ⟨_, rfl, by decide +kernel⟩
  refine ⟨hashable, ?_, ⟨rfl, ?_⟩, trivial⟩
  · change Manager.cheap.CanOpen (Act.perform _ _).2.now
    rw [perform_now]
    exact canOpen
  · refine isFit_of_mem_requestDeeds (fun user presented => ?_) ?_
    · rw [presentedUser_firstRequest] at presented
      obtain rfl := Except.ok.inj presented
      exact hashable
    · rw [perform_now, perform_now]
      exact canOpen

theorem first_acts_are_faultless :
    let world := start .epoch (fun _ => .replicate 8 0) fun _ => .replicate 32 0
    world.Fits firstActs ∧ ∀ exchange ∈ world.exchanges firstActs, exchange.IsFaultless :=
  ⟨firstActs_fit _ _, (fit_runs_are_faultless .epoch _ _ (firstActs_fit _ _)).1⟩

/-- At the end of a leap second a login fails with a fault of the server, although the length of a
session is not negative and its end can be represented. -/
theorem fault_at_end_of_leap_second :
    let world := start .endOfLeapSecond (fun _ => .replicate 8 0) fun _ => .replicate 32 0
    (0 ≤ Manager.fleeting.ttl.nanos ∧
      ∃ expiresAt, Instant.endOfLeapSecond.add? Manager.fleeting.ttl = some expiresAt) ∧
    ∃ exchange ∈ world.exchanges
      [.insertUser firstRow, .made (.login Manager.fleeting ⟨"a@b.c", "b"⟩)],
        ¬ exchange.IsFaultless := by
  intro world
  have now : (Act.perform (.insertUser firstRow) world).2.now = .endOfLeapSecond :=
    perform_now (.insertUser firstRow) world
  have found : (Act.perform (.insertUser firstRow) world).2.users.find? "a@b.c" = some .owner := rfl
  have sound : (Act.perform (.insertUser firstRow) world).2.core.IsSound := ⟨rfl, rfl⟩
  refine ⟨⟨by decide, _, rfl⟩, _, List.mem_cons_of_mem _ List.mem_cons_self, fun faultless => ?_⟩
  generalize (Act.perform (.insertUser firstRow) world).2 = owned at now found sound faultless
  have refused (token : String) : Manager.fleeting.openSession .owner owned.now token = _ :=
    now ▸ Manager.openSession_endOfLeapSecond .owner token
  exact faultless _ (attempt_login_of_unopened sound found Hasher.verifies_owner refused)

end World

end SessionGate
