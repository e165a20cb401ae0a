import SessionGate.Proofs.Runs.Entries
import SessionGate.Proofs.Sessions.Expiry
import SessionGate.Proofs.Sessions.Hints

/-!
# Carriers that say when they end

A carrier may say itself when it ends. The gate refuses one that says it has ended without asking
the store, and treats every other like a carrier that says nothing. A login leaves an entry that
ends when the session does, so as long as nothing else is written under its token a carrier that
says when its session ends is accepted exactly when one that says nothing is.
-/

namespace SessionGate

open Time

/-! ## What is left of an entry -/

/-- What does not write an entry leaves it, or leaves none. -/
theorem Effect.of_leave {effect : Effect} {now : Instant} {stored : Option Entry} {entry : Entry}
    (quiet : ∀ value lifetime, effect ≠ .writes value lifetime)
    (left : effect.leave now stored = some entry) : stored = some entry := by
  cases effect with
  | writes value lifetime => exact absurd rfl (quiet value lifetime)
  | removes => cases left
  | looks => exact (Option.filter_eq_some_iff.mp left).1
  | leaves => exact left

theorem Effect.onToken_ne_writes {effect : Effect} {token key : String}
    (quiet : ∀ value lifetime, effect ≠ .writes value lifetime) (value : Octets)
    (lifetime : Option Lifetime) : effect.onToken token key ≠ .writes value lifetime := by
  rw [onToken, on]
  split
  · exact Effect.noConfusion
  · split
    · exact quiet value lifetime
    · exact Effect.noConfusion

namespace World

variable {world : World} {key : String} {entry : Entry}

/-- An entry that is there after an answer was there before, unless it was put. -/
theorem find?_of_find?_reply {question : Question}
    (unput : ∀ identity lifetime, question ≠ .putSession key identity lifetime)
    (found : (world.reply question).2.sessions.find? key = some entry) :
    world.sessions.find? key = some entry := by
  -- A store that is not sound answers without a change, or as direct work on a sound one does.
  have ofDirect {after : World} (act : Act) (direct : act.IsDirect)
      (quiet : ∀ value lifetime, act.effect key ≠ .writes value lifetime)
      (answered : after = world ∨ after = (act.perform world).2)
      (found : after.sessions.find? key = some entry) :
      world.sessions.find? key = some entry := by
    rcases answered with same | same <;> rw [same] at found
    · exact found
    · rw [find?_perform direct] at found
      exact Effect.of_leave quiet found
  have leaves (value : Octets) (lifetime : Option Lifetime) :
      Effect.leaves ≠ .writes value lifetime := Effect.noConfusion
  cases question with
  | findUser email =>
      exact ofDirect (.findUser email) trivial leaves (viaUserStore_snd _ _ _) found
  | emailTaken email =>
      have same := (viaUserStore_snd world (some false) fun world =>
        (.ok (world.users.contains email), world))
      rw [or_self] at same
      exact same ▸ found
  | insertUser row =>
      exact ofDirect (.insertUser row) trivial leaves (viaUserStore_snd _ _ _) found
  | putSession token identity lifetime =>
      refine ofDirect (.putSession token identity lifetime) trivial ?_
        (viaSessionStore_snd _ _ _) found
      have differs : token ≠ key := fun same => unput identity lifetime (by rw [same])
      intro value other
      rw [Act.effect, Effect.onToken, Effect.on, if_neg differs]
      split <;> exact Effect.noConfusion
  | deleteSession token =>
      exact ofDirect (.deleteSession token) trivial
        (Effect.onToken_ne_writes fun _ _ => Effect.noConfusion) (viaSessionStore_snd _ _ _) found
  | getSession token =>
      exact ofDirect (.getSession token) trivial
        (Effect.onToken_ne_writes fun _ _ => Effect.noConfusion) (viaSessionStore_snd _ _ _) found
  | readClock | drawSalt | drawToken | log event => exact found

theorem find?_of_find?_run {α : Type} {program : Program α}
    (unput : ∀ identity lifetime,
      .putSession key identity lifetime ∉ world.core.runCalls program)
    (found : (world.run program).2.sessions.find? key = some entry) :
    world.sessions.find? key = some entry := by
  induction program generalizing world with
  | done value => exact found
  | ask question resume ih =>
      simp only [Core.runCalls_ask, List.mem_append, not_or] at unput
      have answered : (world.answer question).2.sessions.find? key = some entry := by
        refine ih _ (fun identity lifetime => ?_) found
        have later := (unput identity lifetime).2
        rwa [answer_core] at later
      have noted : (world.noted question).sessions.find? key = some entry := by
        refine find?_of_find?_reply (fun identity lifetime same => ?_) answered
        subst same
        exact (unput identity lifetime).1 (by simp [Question.isStoreCall])
      exact congrArg (fun core => core.sessions.find? key) (core_noted question world) ▸ noted

/-! ## Runs that write nothing under a key -/

/-- Nothing is struck from the journal. -/
theorem exists_calls_perform (act : Act) (world : World) :
    ∃ made, (act.perform world).2.calls = world.calls ++ made := by
  have unchanged {after : World} (same : after.calls = world.calls) :
      ∃ made, after.calls = world.calls ++ made := ⟨[], by simpa using same⟩
  cases act with
  | made call =>
      cases call with
      | sweep => exact unchanged rfl
      | _ => exact ⟨_, calls_attempt _ world⟩
  | requested router manager request => exact ⟨_, calls_run _ world⟩
  | findUser email => exact unchanged (calls_findUser email world)
  | insertUser row => exact unchanged (calls_insertUser row world)
  | setRole id role =>
      apply unchanged
      simp only [Act.perform, setRole]
      cases world.users.setRole id role <;> rfl
  | putSession token identity lifetime =>
      exact unchanged (calls_putSession token identity lifetime world)
  | getSession token => exact unchanged (calls_getSession token world)
  | deleteSession token => exact unchanged (calls_deleteSession token world)
  | setEntry target value lifetime => exact unchanged (calls_setEntry target value lifetime world)
  | getEntry target | deleteEntry target | countEntries | setClock now => exact unchanged rfl
  | advance span =>
      apply unchanged
      simp only [Act.perform, advance]
      cases world.now.add? span <;> rfl

theorem exists_calls_enact (acts : List Act) (world : World) :
    ∃ made, (world.enact acts).calls = world.calls ++ made := by
  induction acts generalizing world with
  | nil => exact ⟨[], by simp⟩
  | cons act acts ih =>
      obtain ⟨first, performed⟩ := exists_calls_perform act world
      obtain ⟨rest, enacted⟩ := ih (act.perform world).2
      exact ⟨first ++ rest, by rw [enact_cons, enacted, performed, List.append_assoc]⟩

/-- No store call among these puts a session under the token. -/
def Unput (key : String) (calls : List Question) : Prop :=
  ∀ identity lifetime, .putSession key identity lifetime ∉ calls

theorem find?_of_find?_perform {act : Act} {made : List Question}
    (quiet : ∀ value lifetime, act.effect key ≠ .writes value lifetime)
    (calls : (act.perform world).2.calls = world.calls ++ made) (unput : Unput key made)
    (found : (act.perform world).2.sessions.find? key = some entry) :
    world.sessions.find? key = some entry := by
  have ofRun {α : Type} {program : Program α}
      (noted : (world.run program).2.calls = world.calls ++ made)
      (found : (world.run program).2.sessions.find? key = some entry) :
      world.sessions.find? key = some entry := by
    rw [calls_run] at noted
    exact find?_of_find?_run (List.append_cancel_left noted ▸ unput) found
  have ofDirect (direct : act.IsDirect) : world.sessions.find? key = some entry := by
    rw [find?_perform direct] at found
    exact Effect.of_leave quiet found
  cases act with
  | made call =>
      cases call with
      | sweep => exact ofDirect trivial
      | _ => exact ofRun calls found
  | requested router manager request => exact ofRun calls found
  | _ => exact ofDirect trivial

/-- A run writes nothing under a key: no act does so itself, and no program that an act runs puts a
session there. -/
structure WritesNothing (world : World) (key : String) (acts : List Act) : Prop where
  quiet : ∀ act ∈ acts, ∀ value lifetime, act.effect key ≠ .writes value lifetime
  unput : ∀ made, (world.enact acts).calls = world.calls ++ made → Unput key made

theorem writesNothing_cons {act : Act} {acts : List Act}
    (nothing : world.WritesNothing key (act :: acts)) :
    (∀ value lifetime, act.effect key ≠ .writes value lifetime) ∧
      (∀ made, (act.perform world).2.calls = world.calls ++ made → Unput key made) ∧
      (act.perform world).2.WritesNothing key acts := by
  have joined {first rest : List Question}
      (performed : (act.perform world).2.calls = world.calls ++ first)
      (enacted : ((act.perform world).2.enact acts).calls = (act.perform world).2.calls ++ rest) :
      Unput key (first ++ rest) := by
    apply nothing.unput
    rw [enact_cons, enacted, performed, List.append_assoc]
  obtain ⟨first, performed⟩ := exists_calls_perform act world
  obtain ⟨rest, enacted⟩ := exists_calls_enact acts (act.perform world).2
  refine ⟨nothing.quiet act List.mem_cons_self, fun made same identity lifetime member => ?_,
    fun later member => nothing.quiet later (List.mem_cons_of_mem _ member),
    fun made same identity lifetime member => ?_⟩
  · exact joined same enacted identity lifetime (List.mem_append_left _ member)
  · exact joined performed same identity lifetime (List.mem_append_right _ member)

/-- An entry that is there after a run that writes nothing under its key was there before. -/
theorem find?_of_find?_enact {acts : List Act} (nothing : world.WritesNothing key acts)
    (found : (world.enact acts).sessions.find? key = some entry) :
    world.sessions.find? key = some entry := by
  induction acts generalizing world with
  | nil => exact found
  | cons act acts ih =>
      obtain ⟨quiet, unput, later⟩ := writesNothing_cons nothing
      obtain ⟨made, performed⟩ := exists_calls_perform act world
      exact find?_of_find?_perform quiet performed (unput made performed) (ih later found)

end World

namespace Time.Instant

theorem isFractionOf_cut (instant : Instant) :
    IsFractionOf instant.wholeSecond (if instant.isLeap then 1000000000 else 0) := by
  have within := instant.isFraction
  simp only [IsFractionOf, isLeap, decide_eq_true_eq] at *
  split <;> omega

/-- The instant cut down to what a cookie says of it: whole seconds, a leap second being one. -/
def cutDown (instant : Instant) : Instant :=
  { instant with
    fraction := if instant.isLeap then 1000000000 else 0
    isFraction := instant.isFractionOf_cut }

theorem isLeap_cutDown (instant : Instant) : instant.cutDown.isLeap = instant.isLeap := by
  have leaps : instant.cutDown.isLeap = decide
      (1000000000 ≤ if instant.isLeap then 1000000000 else 0) := rfl
  rw [leaps]
  cases instant.isLeap <;> rfl

theorem cookieStamp_cutDown (instant : Instant) :
    instant.cutDown.cookieStamp = instant.cookieStamp := by
  simp only [cookieStamp, clockText, isLeap_cutDown]
  rfl

theorem cutDown_le (instant : Instant) : instant.cutDown ≤ instant := by
  refine .inr ⟨rfl, ?_⟩
  simp only [cutDown, isLeap, decide_eq_true_eq]
  split <;> omega

theorem nanos_sub_cutDown (instant : Instant) :
    instant.nanos - instant.cutDown.nanos < second := by
  have within := instant.isFraction
  simp only [nanos, cutDown, isLeap, IsFractionOf, decide_eq_true_eq, second] at *
  split <;> omega

end Time.Instant

/-! ## What a login leaves -/

/-- The entry of a session that is opened now ends when the session says or, where the clock stands
in a leap second, possibly before. -/
theorem Manager.exists_ends_of_openSession {manager : Manager} {user : User} {now : Instant}
    {token : String} {session : Session} {lifetime : Lifetime}
    (opened : manager.openSession user now token = .ok (session, lifetime)) :
    ∃ ends, ExpiringMap.expiry now (some lifetime) = .ok (some ends) ∧
      ends ≤ session.expiresAt ∧ (now.isLeap = false → ends = session.expiresAt) := by
  obtain ⟨-, -, sum, positive⟩ := eq_of_openSession opened
  have length := Span.toLifetime?_eq_some_iff.mp positive
  have lasts : 0 ≤ (session.expiresAt.since now).nanos := by omega
  obtain ⟨ends, again⟩ := Instant.exists_add?_since sum lasts
  refine ⟨ends, ?_, Instant.le_of_add?_since sum lasts again, fun plain => ?_⟩
  · simp only [ExpiringMap.expiry, Span.toSpan?_of_toLifetime? positive, again]
  · rw [Instant.add?_since plain (Instant.isLeap_of_add? plain sum)] at again
    exact (Option.some.inj again).symm

namespace Core

variable {core : Core} {manager : Manager} {credentials : Credentials} {session : Session}
  {id : UserId}

/-- A login that succeeds has found an account with the right password and opened a session. -/
theorem exists_openSession_of_login (sound : core.IsSound)
    (entered : (core.attempt (manager.login credentials)).1 = .ok (session, id)) :
    ∃ user lifetime, core.users.find? credentials.email = some user ∧
      manager.hasher.verifies (Octets.ofText credentials.password) user.password = true ∧
      manager.openSession user core.now core.nextToken = .ok (session, lifetime) := by
  rw [attempt_login sound] at entered
  cases found : core.users.find? credentials.email with
  | none =>
      rw [found] at entered
      cases entered
  | some user =>
      rw [found] at entered
      cases right : manager.hasher.verifies (Octets.ofText credentials.password) user.password with
      | false =>
          simp only [right] at entered
          cases entered
      | true =>
          simp only [right, if_true, issue] at entered
          cases opened : manager.openSession user core.now core.nextToken with
          | error error =>
              rw [opened] at entered
              cases entered
          | ok pair =>
              obtain ⟨issued, lifetime⟩ := pair
              rw [opened] at entered
              refine ⟨user, lifetime, rfl, right, ?_⟩
              dsimp only at entered
              split at entered
              · cases entered
              · split at entered
                · cases entered
                · obtain rfl : issued = session := (Prod.mk.inj (Except.ok.inj entered)).1
                  exact opened

theorem exists_entry_of_login (sound : core.IsSound)
    (entered : (core.attempt (manager.login credentials)).1 = .ok (session, id)) :
    session.token.isEmpty = false ∧ ∃ ends, ends ≤ session.expiresAt ∧
      (core.now.isLeap = false → ends = session.expiresAt) ∧
      (core.attempt (manager.login credentials)).2.sessions.find? session.token =
        some ⟨session.identity.encode, some ends⟩ := by
  obtain ⟨user, lifetime, found, right, opened⟩ := exists_openSession_of_login sound entered
  obtain ⟨ends, expiry, early, exact⟩ := Manager.exists_ends_of_openSession opened
  have notBlank : session.token.isEmpty = false :=
    (Manager.eq_of_openSession opened).1 ▸ Token.isEmpty_ofBytes _
  refine ⟨notBlank, ends, early, exact, ?_⟩
  rw [login_ok_of_expiry sound found right opened notBlank expiry]
  exact (ExpiringMap.find?_insert _ _ _ _).trans (if_pos rfl)

end Core

/-! ## Carriers of issued sessions -/

namespace World

/-- The gate has reason to accept a session's token for an identity: the entry with the end given
is there, the end is still to come, and the identity is the session's and somebody's. -/
structure Honours (world : World) (session : Session) (ends : Instant) (identity : Identity) :
    Prop where
  entry : world.sessions.find? session.token = some ⟨session.identity.encode, some ends⟩
  running : world.now < ends
  ours : identity = session.identity
  somebody : identity.userId ≠ 0

/-- What a carrier of the session's token says of its end makes no difference if that is what the
session says, and only makes its end come earlier if it is cut down. -/
structure HonoursUntil (world : World) (session : Session) (ends : Instant) : Prop where
  undeclared : ∀ identity,
    (world.attempt (Gate.authenticate (some ⟨session.token, none⟩))).1 = .ok identity ↔
      world.Honours session ends identity
  declared : ∀ identity,
    (world.attempt (Gate.authenticate (some ⟨session.token, some session.expiresAt⟩))).1 =
        .ok identity ↔
      world.Honours session ends identity
  cutDown : ∀ identity,
    (world.attempt (Gate.authenticate (some ⟨session.token, some session.expiresAt.cutDown⟩))).1 =
        .ok identity ↔
      world.Honours session ends identity ∧ world.now < session.expiresAt.cutDown

variable {world : World} {session : Session} {ends : Instant}

theorem attempt_authenticate_of_sound (sound : world.core.IsSound) {token : String}
    (notBlank : token.isEmpty = false) :
    (world.attempt (Gate.authenticate (some ⟨token, none⟩))).1 =
      Gate.pass (Core.identityOf ((world.sessions.live? world.now token).map Entry.value)) := by
  have asked := world.core.attempt_authenticate_of_sound sound notBlank
  rwa [attempt_core] at asked

theorem attempt_authenticate_of_entry (sound : world.core.IsSound)
    (notBlank : session.token.isEmpty = false)
    (onlyEntry : ∀ entry, world.sessions.find? session.token = some entry →
      entry = ⟨session.identity.encode, some ends⟩) (identity : Identity) :
    (world.attempt (Gate.authenticate (some ⟨session.token, none⟩))).1 = .ok identity ↔
      world.Honours session ends identity := by
  rw [attempt_authenticate_of_sound sound notBlank]
  constructor
  · intro accepted
    cases live : world.sessions.live? world.now session.token with
    | none =>
        rw [live] at accepted
        cases accepted
    | some entry =>
        obtain ⟨found, unexpired⟩ := ExpiringMap.live?_eq_some_iff.mp live
        obtain rfl := onlyEntry entry found
        rw [live, Option.map_some, Core.identityOf, Identity.decode_encode] at accepted
        change (if session.identity.userId = 0 then _ else _) = _ at accepted
        split at accepted
        · cases accepted
        · rename_i somebody
          obtain rfl := Except.ok.inj accepted
          exact ⟨found, Instant.not_le.mp (of_decide_eq_false unexpired), rfl, somebody⟩
  · rintro ⟨found, running, rfl, somebody⟩
    have live : world.sessions.live? world.now session.token =
        some ⟨session.identity.encode, some ends⟩ :=
      ExpiringMap.live?_eq_some_iff.mpr
        ⟨found, decide_eq_false (Instant.not_le.mpr running)⟩
    rw [live, Option.map_some, Core.identityOf, Identity.decode_encode]
    exact if_neg somebody

/-- A declared end is an end beside the one in the store. -/
theorem attempt_authenticate_declared_ok_iff {token : String} {expires : Instant}
    {identity : Identity} :
    (world.attempt (Gate.authenticate (some ⟨token, some expires⟩))).1 = .ok identity ↔
      (world.attempt (Gate.authenticate (some ⟨token, none⟩))).1 = .ok identity ∧
        world.now < expires := by
  rw [attempt_authenticate_declared]
  by_cases ended : expires ≤ world.now
  · rw [if_pos ended]
    exact iff_of_false nofun fun both => Instant.not_le.mpr both.2 ended
  · rw [if_neg ended]
    exact (and_iff_left (Instant.not_le.mp ended)).symm

theorem honoursUntil (sound : world.core.IsSound) (notBlank : session.token.isEmpty = false)
    (early : ends ≤ session.expiresAt)
    (onlyEntry : ∀ entry, world.sessions.find? session.token = some entry →
      entry = ⟨session.identity.encode, some ends⟩) : world.HonoursUntil session ends where
  undeclared := attempt_authenticate_of_entry sound notBlank onlyEntry
  declared identity := by
    rw [attempt_authenticate_declared_ok_iff,
      attempt_authenticate_of_entry sound notBlank onlyEntry, and_iff_left_iff_imp]
    exact fun honours => Instant.lt_of_lt_of_le honours.running early
  cutDown identity := by
    rw [attempt_authenticate_declared_ok_iff,
      attempt_authenticate_of_entry sound notBlank onlyEntry]

/-- What a carrier says of its end is judged by the clock alone, and nothing else depends on it. -/
structure HeedsDeclared (world : World) (token : String) (expires : Instant) : Prop where
  ended : expires ≤ world.now →
    (world.attempt (Gate.authenticate (some ⟨token, some expires⟩))).1 = .error .unauthorized ∧
      (world.attempt (Gate.authenticate (some ⟨token, some expires⟩))).2.core = world.core ∧
      (world.attempt (Gate.authenticate (some ⟨token, some expires⟩))).2.calls = world.calls
  running : world.now < expires →
    world.attempt (Gate.authenticate (some ⟨token, some expires⟩)) =
      world.attempt (Gate.authenticate (some ⟨token, none⟩))
  accepted : ∀ identity,
    (world.attempt (Gate.authenticate (some ⟨token, some expires⟩))).1 = .ok identity →
    (world.attempt (Gate.authenticate (some ⟨token, none⟩))).1 = .ok identity

theorem heedsDeclared (world : World) (token : String) (expires : Instant) :
    world.HeedsDeclared token expires where
  ended ended := by
    rw [attempt_authenticate_declared, if_pos ended]
    exact ⟨rfl, rfl, calls_logged _ world⟩
  running running := by
    rw [attempt_authenticate_declared, if_neg (Instant.not_le.mpr running)]
  accepted identity accepted := (attempt_authenticate_declared_ok_iff.mp accepted).1

theorem isSound_enact (sound : world.core.IsSound) (acts : List Act) :
    (world.enact acts).core.IsSound := by
  induction acts generalizing world with
  | nil => exact sound
  | cons act acts ih =>
      exact ih ((precedes_perform act world).isSound ⟨sound.users, sound.sessions⟩)

/-- What a login issues, the gate accepts until the end that the store has noted, after any run that
writes nothing else under the token. -/
theorem honoursUntil_of_login {manager : Manager} {credentials : Credentials} {id : UserId}
    (sound : world.core.IsSound)
    (entered : (world.attempt (manager.login credentials)).1 = .ok (session, id)) :
    ∃ ends, ends ≤ session.expiresAt ∧ (world.now.isLeap = false → ends = session.expiresAt) ∧
      (world.attempt (manager.login credentials)).2.sessions.find? session.token =
        some ⟨session.identity.encode, some ends⟩ ∧
      ∀ acts, (world.attempt (manager.login credentials)).2.WritesNothing session.token acts →
        ((world.attempt (manager.login credentials)).2.enact acts).HonoursUntil session ends := by
  have result : (world.core.attempt (manager.login credentials)).1 = .ok (session, id) := by
    rwa [attempt_core]
  obtain ⟨notBlank, ends, early, same, stored⟩ := Core.exists_entry_of_login sound result
  rw [attempt_core] at stored
  refine ⟨ends, early, same, stored, fun acts nothing => ?_⟩
  have afterSound : (world.attempt (manager.login credentials)).2.core.IsSound :=
    (precedes_run _ world).isSound sound
  refine honoursUntil (isSound_enact afterSound acts) notBlank early fun entry found => ?_
  exact Option.some.inj ((find?_of_find?_enact nothing found).symm.trans stored)

end World

/-- Whatever the gate is told, it accepts nobody's identity. -/
theorem Gate.somebody_of_converses {carrier : Option Carrier} {turns : List Turn}
    {identity : Identity} (converses : (authenticate carrier).Converses turns (.ok identity)) :
    identity.userId ≠ 0 := by
  cases carrier with
  | none => cases (Action.converses_throw_iff.mp converses).2
  | some carrier =>
      rw [authenticate] at converses
      obtain ⟨_, -, impossible⟩ | ⟨_, _, _, -, -, resolves⟩ :=
        Action.converses_bind_iff.mp converses
      · cases impossible
      obtain ⟨_, -, impossible⟩ | ⟨_, _, known, -, -, passes⟩ :=
        Action.converses_bind_iff.mp resolves
      · cases impossible
      by_cases nobody : known.userId = 0
      · simp only [nobody, if_true] at passes
        cases (Action.converses_throw_bind_iff.mp passes).2
      · simp only [nobody, if_false] at passes
        obtain ⟨-, same⟩ := Action.converses_pure_iff.mp passes
        exact Except.ok.inj same ▸ nobody

namespace World

/-- The gate's own look at what a carrier says agrees with the store of sessions. -/
theorem gate_agrees_with_store :
    (∀ (world : World) (token : String) (expires : Instant),
      world.HeedsDeclared token expires) ∧
    (∀ (world : World) (manager : Manager) (credentials : Credentials) (session : Session)
        (id : UserId), world.core.IsSound →
      (world.attempt (manager.login credentials)).1 = .ok (session, id) →
      ∃ ends, ends ≤ session.expiresAt ∧ (world.now.isLeap = false → ends = session.expiresAt) ∧
        (world.attempt (manager.login credentials)).2.sessions.find? session.token =
          some ⟨session.identity.encode, some ends⟩ ∧
        ∀ acts, (world.attempt (manager.login credentials)).2.WritesNothing session.token acts →
          ((world.attempt (manager.login credentials)).2.enact acts).HonoursUntil session ends) ∧
    (∀ instant : Instant, instant.cutDown ≤ instant ∧
      instant.nanos - instant.cutDown.nanos < second ∧
      instant.cutDown.cookieStamp = instant.cookieStamp) ∧
    ∀ {σ : Type} (answer : Surroundings σ) (state : σ) (carrier : Option Carrier)
      (identity : Identity),
      (Gate.authenticate carrier).outcome answer state = .ok identity → identity.userId ≠ 0 := by
  refine ⟨heedsDeclared, fun world manager credentials session id sound entered =>
    honoursUntil_of_login sound entered, fun instant => ⟨instant.cutDown_le,
      instant.nanos_sub_cutDown, instant.cookieStamp_cutDown⟩, ?_⟩
  intro σ answer state carrier identity accepted
  have converses := Action.converses_transcript answer (Gate.authenticate carrier) state
  rw [accepted] at converses
  exact Gate.somebody_of_converses converses

/-! ## Sessions of the owner -/

theorem attempt_login_owner (manager : Manager) {now : Instant} {session : Session}
    {lifetime : Lifetime} {expires : Option Instant}
    (hasher : manager.hasher = Manager.cheap.hasher)
    (opened : manager.openSession .owner now (Token.ofBytes (.replicate 32 0)) =
      .ok (session, lifetime))
    (expiry : ExpiringMap.expiry now (some lifetime) = .ok expires) :
    ∃ after, (Http.ownersWorld now).attempt (manager.login ⟨"a@b.c", "b"⟩) =
        (.ok (session, 1), after) ∧ after.now = now ∧ after.core.IsSound ∧
      after.sessions.find? session.token = some ⟨session.identity.encode, expires⟩ := by
  have sound := (Http.ownersWorld_isReachable now).isRegular.sound
  have clock : (Http.ownersWorld now).core.now = now := Http.now_ownersWorld now
  have notBlank : session.token.isEmpty = false :=
    (Manager.eq_of_openSession opened).1 ▸ Token.isEmpty_ofBytes _
  have right : manager.hasher.verifies (Octets.ofText "b") User.owner.password = true :=
    hasher ▸ Hasher.verifies_owner
  have known : (Http.ownersWorld now).core.users.find? "a@b.c" = some .owner := rfl
  have token : (Http.ownersWorld now).core.nextToken = Token.ofBytes (.replicate 32 0) := rfl
  rw [← token, ← clock] at opened
  rw [← clock] at expiry
  have entered := @Core.login_ok_of_expiry _ manager ⟨"a@b.c", "b"⟩ _ _ _ _ sound known right opened
    notBlank expiry
  rw [attempt_core] at entered
  obtain ⟨result, left⟩ := Prod.mk.inj entered
  refine ⟨_, Prod.ext result rfl, ?_, left ▸ ⟨sound.users, sound.sessions⟩, ?_⟩
  · exact (congrArg Core.now left).trans clock
  · have stored := congrArg (fun core => core.sessions.find? session.token) left
    exact stored.trans ((ExpiringMap.find?_insert _ _ _ _).trans (if_pos rfl))

/-- The owner's session that is opened at the beginning of 1970 and lasts a day. -/
def ownersSession : Session :=
  ⟨Token.ofBytes (.replicate 32 0), ⟨86400, 0, by decide, by decide, by decide⟩, 1, .user⟩

theorem openSession_owner :
    Manager.cheap.openSession .owner .epoch (Token.ofBytes (.replicate 32 0)) =
      .ok (ownersSession, ⟨86400000000000, by decide⟩) := by
  have sum : Instant.epoch.add? Manager.cheap.ttl = some ownersSession.expiresAt := by decide
  have length : (ownersSession.expiresAt.since .epoch).toLifetime? =
      some ⟨86400000000000, by decide⟩ := by decide
  rw [Manager.openSession, sum]
  simp only [length]
  rfl

/-- Half a second before the end of a day's session the owner is still let in by a carrier that says
when the session ends. -/
theorem owner_let_in_until_end :
    ∃ after, (Http.ownersWorld .epoch).attempt (Manager.cheap.login ⟨"a@b.c", "b"⟩) =
        (.ok (ownersSession, 1), after) ∧
      ((after.enact [.setClock ⟨86399, 500000000, by decide, by decide, by decide⟩]).attempt
        (Gate.authenticate (some ⟨ownersSession.token, some ownersSession.expiresAt⟩))).1 =
          .ok ⟨1, .user⟩ := by
  have expiry : ExpiringMap.expiry Instant.epoch (some ⟨86400000000000, by decide⟩) =
      .ok (some ownersSession.expiresAt) :=
    Manager.expiry_of_openSession rfl openSession_owner
  obtain ⟨after, entered, -, -, stored⟩ := attempt_login_owner .cheap rfl openSession_owner expiry
  obtain ⟨ends, -, same, -, honours⟩ := gate_agrees_with_store.2.1 (Http.ownersWorld .epoch) .cheap
    ⟨"a@b.c", "b"⟩ ownersSession 1 (Http.ownersWorld_isReachable .epoch).isRegular.sound
    (congrArg Prod.fst entered)
  obtain rfl : ends = ownersSession.expiresAt :=
    same (congrArg Instant.isLeap (Http.now_ownersWorld .epoch))
  rw [entered] at honours
  have nothing : after.WritesNothing ownersSession.token
      [.setClock ⟨86399, 500000000, by decide, by decide, by decide⟩] := by
    refine ⟨by simp [Act.effect], fun made calls => ?_⟩
    obtain rfl := List.self_eq_append_right.mp calls
    exact fun _ _ => List.not_mem_nil
  have early : (⟨86399, 500000000, by decide, by decide, by decide⟩ : Instant) <
    ownersSession.expiresAt := by decide
  have somebody : ownersSession.userId ≠ 0 := by decide
  exact ⟨after, entered, ((honours _ nothing).declared _).mpr ⟨stored, early, rfl, somebody⟩⟩

/-- The owner's session that is opened in the middle of a leap second and lasts a second. -/
def leapSession : Session :=
  ⟨Token.ofBytes (.replicate 32 0), ⟨86400, 500000000, by decide, by decide, by decide⟩, 1, .user⟩

/-- In a leap second a session may be refused before it says that it ends. And if its entry is
written again, a carrier that says nothing is let in when one that says when the session ends is
not. -/
theorem declared_end_may_matter :
    (∃ after, (Http.ownersWorld .midLeapSecond).attempt (Manager.brief.login ⟨"a@b.c", "b"⟩) =
        (.ok (leapSession, 1), after) ∧
      after.now < leapSession.expiresAt ∧ (after.sessions.find? leapSession.token).isSome ∧
      (after.attempt (Gate.authenticate (some ⟨leapSession.token, none⟩))).1 =
        .error .notFound ∧
      (after.attempt (Gate.authenticate
        (some ⟨leapSession.token, some leapSession.expiresAt⟩))).1 = .error .notFound) ∧
    ∃ after, (Http.ownersWorld .epoch).attempt (Manager.cheap.login ⟨"a@b.c", "b"⟩) =
        (.ok (ownersSession, 1), after) ∧
      let later := after.enact [.setEntry ownersSession.token ownersSession.identity.encode none,
        .setClock ownersSession.expiresAt]
      (later.attempt (Gate.authenticate (some ⟨ownersSession.token, none⟩))).1 =
        .ok ⟨1, .user⟩ ∧
      (later.attempt (Gate.authenticate
        (some ⟨ownersSession.token, some ownersSession.expiresAt⟩))).1 = .error .unauthorized := by
  constructor
  · have opened : Manager.brief.openSession .owner .midLeapSecond
        (Token.ofBytes (.replicate 32 0)) = .ok (leapSession, ⟨0, by decide⟩) :=
      Manager.openSession_midLeapSecond _
    have expiry : ExpiringMap.expiry Instant.midLeapSecond (some ⟨0, by decide⟩) =
        .ok (some .midLeapSecond) := rfl
    obtain ⟨after, entered, now, sound, stored⟩ := attempt_login_owner .brief rfl opened expiry
    have early : after.now < leapSession.expiresAt := by
      rw [now]
      decide
    have dead : after.sessions.live? after.now leapSession.token = none := by
      rw [now, ExpiringMap.live?, stored]
      rfl
    have refused : (after.attempt (Gate.authenticate (some ⟨leapSession.token, none⟩))).1 =
        .error .notFound := by
      have notBlank : leapSession.token.isEmpty = false := Token.isEmpty_ofBytes _
      rw [attempt_authenticate_of_sound sound notBlank, dead]
      rfl
    refine ⟨after, entered, early, by rw [stored]; rfl, refused, ?_⟩
    rw [attempt_authenticate_declared, if_neg (Instant.not_le.mpr early)]
    exact refused
  · have expiry : ExpiringMap.expiry Instant.epoch (some ⟨86400000000000, by decide⟩) =
        .ok (some ownersSession.expiresAt) :=
      Manager.expiry_of_openSession rfl openSession_owner
    obtain ⟨after, entered, -, sound, -⟩ := attempt_login_owner .cheap rfl openSession_owner expiry
    refine ⟨after, entered, ?_⟩
    intro later
    have laterSound : later.core.IsSound := isSound_enact sound _
    have now : later.now = ownersSession.expiresAt := rfl
    have live : later.sessions.live? later.now ownersSession.token =
        some ⟨ownersSession.identity.encode, none⟩ :=
      ExpiringMap.live?_eq_some_iff.mpr
        ⟨(ExpiringMap.find?_insert _ _ _ _).trans (if_pos rfl), rfl⟩
    clear_value later
    constructor
    · have notBlank : ownersSession.token.isEmpty = false := Token.isEmpty_ofBytes _
      rw [attempt_authenticate_of_sound laterSound notBlank, live, Option.map_some,
        Core.identityOf, Identity.decode_encode]
      rfl
    · rw [attempt_authenticate_declared, now, if_pos (Instant.le_refl _)]

end World

end SessionGate
