import SessionGate.Proofs.Http.Agreement
import SessionGate.Proofs.Settings.Lookup
import SessionGate.Startup

/-!
# Valid settings

Settings are refused for the first of four reasons. A service with settings that are valid at an
instant opens a session for everyone who logs in with the right password up to that instant.
-/

namespace SessionGate

open Time

/-! ## Validation -/

/-- The costs with which keys can be derived: eight blocks for each lane, a pass and a lane at
least, and a key of four bytes. -/
structure HashCosts.AreAccepted (costs : HashCosts) : Prop where
  memory : 8 ≤ costs.memory ∧ 8 * costs.lanes ≤ costs.memory
  passes : 1 ≤ costs.passes
  lanes : 1 ≤ costs.lanes ∧ costs.lanes ≤ 0xffffff
  keyLength : 4 ≤ costs.keyLength ∧ costs.keyLength ≤ 0xffffffff

theorem HashCosts.refusal?_eq_none_iff {costs : HashCosts} :
    costs.refusal? = none ↔ costs.AreAccepted := by
  rw [Hash.Argon2id.Costs.refusal?]
  constructor
  · intro accepted
    split_ifs at accepted
    exact ⟨by omega, by omega, by omega, by omega⟩
  · rintro ⟨memory, passes, lanes, keyLength⟩
    rw [if_neg (by omega), if_neg (by omega), if_neg (by omega), if_neg (by omega),
      if_neg (by omega), if_neg (by omega)]

namespace Settings

variable {settings : Settings} {now : Instant}

/-- The greatest number of whole seconds in a span. -/
def longestSession : Int := 9223372036854775

theorem exists_ofSeconds?_iff {seconds : Int} (positive : 0 < seconds) :
    (∃ span, Span.ofSeconds? seconds = some span) ↔ seconds ≤ longestSession := by
  rw [Span.ofSeconds?, Span.ofNanos?]
  split
  case isTrue inside =>
    simp only [second, widestSpan] at inside
    simp only [longestSession, Option.some.injEq, exists_eq', true_iff]
    omega
  case isFalse outside =>
    simp only [second, widestSpan] at outside
    simp only [longestSession, reduceCtorEq, exists_false, false_iff]
    omega

theorem nanos_of_ofSeconds? {seconds : Int} {span : Span}
    (found : Span.ofSeconds? seconds = some span) : span.nanos = seconds * second := by
  rw [Span.ofSeconds?, Span.ofNanos?] at found
  split at found
  · rw [← Option.some.inj found]
  · cases found

/-- Settings with which a service can be run from an instant on. -/
structure AreValid (settings : Settings) (now : Instant) : Prop where
  positive : 0 < settings.sessionSeconds
  isSpan : settings.sessionSeconds ≤ longestSession
  ends : now.wholeSecond + settings.sessionSeconds ≤ Instant.last.wholeSecond
  accepted : settings.costs.AreAccepted

/-- The first reason not to run a service with settings from an instant on. -/
inductive IsFirstFault (settings : Settings) (now : Instant) : SettingsError → Prop
  | notPositive (fault : settings.sessionSeconds ≤ 0) :
      IsFirstFault settings now (.sessionNotPositive settings.sessionSeconds)
  | tooLong (positive : 0 < settings.sessionSeconds)
      (fault : longestSession < settings.sessionSeconds) :
      IsFirstFault settings now (.sessionTooLong settings.sessionSeconds)
  | neverEnds (positive : 0 < settings.sessionSeconds)
      (isSpan : settings.sessionSeconds ≤ longestSession)
      (fault : Instant.last.wholeSecond < now.wholeSecond + settings.sessionSeconds) :
      IsFirstFault settings now (.expiryOutOfRange settings.sessionSeconds)
  | refusedCosts {error : Hash.Argon2id.CostError} (positive : 0 < settings.sessionSeconds)
      (isSpan : settings.sessionSeconds ≤ longestSession)
      (ends : now.wholeSecond + settings.sessionSeconds ≤ Instant.last.wholeSecond)
      (fault : ¬ settings.costs.AreAccepted) (reason : settings.costs.refusal? = some error) :
      IsFirstFault settings now (.invalidCosts (.internal (.costs error)))

theorem ofCosts_of_refusal? {costs : HashCosts} {error : Hash.Argon2id.CostError}
    (refused : costs.refusal? = some error) :
    Hasher.ofCosts costs = .error (.internal (.costs error)) := by
  rw [Hasher.ofCosts]
  split <;> simp_all

theorem ofCosts_of_accepted {costs : HashCosts} (accepted : costs.refusal? = none) :
    Hasher.ofCosts costs = .ok ⟨costs, accepted⟩ := by
  rw [Hasher.ofCosts]
  split <;> simp_all

/-- How the faults are looked for: the length of a session, its end, the costs. -/
theorem validate_eq (settings : Settings) (now : Instant) :
    settings.validate now =
      if settings.sessionSeconds ≤ 0 then .error (.sessionNotPositive settings.sessionSeconds)
      else match Span.ofSeconds? settings.sessionSeconds with
        | none => .error (.sessionTooLong settings.sessionSeconds)
        | some ttl =>
            if (now.add? ttl).isNone then .error (.expiryOutOfRange settings.sessionSeconds)
            else match settings.costs.refusal? with
              | some error => .error (.invalidCosts (.internal (.costs error)))
              | none => .ok () := by
  rw [validate, sessionTtl]
  split
  case isTrue => rfl
  case isFalse =>
    cases Span.ofSeconds? settings.sessionSeconds with
    | none => rfl
    | some ttl =>
        cases ends : (now.add? ttl).isNone with
        | true => simp [ends, bind, Except.bind, throw, throwThe, MonadExceptOf.throw]
        | false =>
            cases reason : settings.costs.refusal? with
            | none => simp [ends, reason, ofCosts_of_accepted, bind, Except.bind, pure,
                Except.pure, Except.mapError]
            | some error => simp [ends, reason, ofCosts_of_refusal?, bind, Except.bind,
                Except.mapError]

theorem validate_of_areValid (valid : settings.AreValid now) : settings.validate now = .ok () := by
  obtain ⟨span, isSpan⟩ := (exists_ofSeconds?_iff valid.positive).mpr valid.isSpan
  obtain ⟨finish, ends⟩ := (Instant.exists_add?_iff_of_seconds valid.positive
    (nanos_of_ofSeconds? isSpan)).mpr valid.ends
  rw [validate_eq, if_neg (Int.not_le.mpr valid.positive), isSpan]
  dsimp only
  rw [ends, HashCosts.refusal?_eq_none_iff.mpr valid.accepted]
  rfl

theorem validate_of_isFirstFault {error : SettingsError}
    (fault : settings.IsFirstFault now error) : settings.validate now = .error error := by
  rw [validate_eq]
  cases fault with
  | notPositive fault => rw [if_pos fault]
  | tooLong positive fault =>
      rw [if_neg (Int.not_le.mpr positive), Option.eq_none_iff_forall_ne_some.mpr fun span isSpan =>
        Int.not_le.mpr fault ((exists_ofSeconds?_iff positive).mp ⟨span, isSpan⟩)]
  | neverEnds positive isSpan fault =>
      obtain ⟨span, found⟩ := (exists_ofSeconds?_iff positive).mpr isSpan
      have length := nanos_of_ofSeconds? found
      rw [if_neg (Int.not_le.mpr positive), found]
      dsimp only
      rw [Option.eq_none_iff_forall_ne_some.mpr fun finish ends => Int.not_le.mpr fault
        ((Instant.exists_add?_iff_of_seconds positive length).mp ⟨finish, ends⟩)]
      rfl
  | refusedCosts positive isSpan ends fault reason =>
      obtain ⟨span, found⟩ := (exists_ofSeconds?_iff positive).mpr isSpan
      obtain ⟨finish, sum⟩ := (Instant.exists_add?_iff_of_seconds positive
        (nanos_of_ofSeconds? found)).mpr ends
      rw [if_neg (Int.not_le.mpr positive), found]
      dsimp only
      rw [sum, reason]
      rfl

theorem areValid_or_exists_isFirstFault (settings : Settings) (now : Instant) :
    settings.AreValid now ∨ ∃ error, settings.IsFirstFault now error := by
  by_cases positive : 0 < settings.sessionSeconds
  case neg => exact .inr ⟨_, .notPositive (Int.not_lt.mp positive)⟩
  by_cases isSpan : settings.sessionSeconds ≤ longestSession
  case neg => exact .inr ⟨_, .tooLong positive (Int.not_le.mp isSpan)⟩
  by_cases ends : now.wholeSecond + settings.sessionSeconds ≤ Instant.last.wholeSecond
  case neg => exact .inr ⟨_, .neverEnds positive isSpan (Int.not_le.mp ends)⟩
  by_cases accepted : settings.costs.AreAccepted
  case pos => exact .inl ⟨positive, isSpan, ends, accepted⟩
  case neg =>
    cases reason : settings.costs.refusal? with
    | none => exact absurd (HashCosts.refusal?_eq_none_iff.mp reason) accepted
    | some error => exact .inr ⟨_, .refusedCosts positive isSpan ends accepted reason⟩

theorem validate_eq_ok_iff : settings.validate now = .ok () ↔ settings.AreValid now := by
  refine ⟨fun valid => ?_, validate_of_areValid⟩
  rcases areValid_or_exists_isFirstFault settings now with areValid | ⟨error, fault⟩
  · exact areValid
  · cases valid.symm.trans (validate_of_isFirstFault fault)

theorem validate_eq_error_iff {error : SettingsError} :
    settings.validate now = .error error ↔ settings.IsFirstFault now error := by
  refine ⟨fun invalid => ?_, validate_of_isFirstFault⟩
  rcases areValid_or_exists_isFirstFault settings now with areValid | ⟨first, fault⟩
  · cases invalid.symm.trans (validate_of_areValid areValid)
  · obtain rfl := Except.error.inj (invalid.symm.trans (validate_of_isFirstFault fault))
    exact fault

/-! ## The service of valid settings -/

theorem exists_manager (valid : settings.AreValid now) :
    ∃ manager : Manager, settings.manager = .ok manager ∧
      manager.ttl.nanos = settings.sessionSeconds * second ∧
      manager.hasher.costs = settings.costs := by
  obtain ⟨span, found⟩ := (exists_ofSeconds?_iff valid.positive).mpr valid.isSpan
  have accepted := HashCosts.refusal?_eq_none_iff.mpr valid.accepted
  refine ⟨⟨⟨settings.costs, accepted⟩, span⟩, ?_, nanos_of_ofSeconds? found, rfl⟩
  rw [manager, ofCosts_of_accepted accepted, sessionTtl, found]
  rfl

end Settings

namespace Manager

variable {manager : Manager}

/-- Where whole seconds lead somewhere from an instant, a session of that length can be opened at
all instants before it. -/
theorem canOpen_of_seconds {seconds : Int} {now checked : Instant} (positive : 0 < seconds)
    (length : manager.ttl.nanos = seconds * second)
    (ends : checked.wholeSecond + seconds ≤ Instant.last.wholeSecond) (early : now ≤ checked) :
    manager.CanOpen now := by
  have notLater : now.wholeSecond ≤ checked.wholeSecond := by
    rcases early with earlier | ⟨same, -⟩ <;> omega
  obtain ⟨finish, sum⟩ : ∃ finish, now.add? manager.ttl = some finish :=
    (Instant.exists_add?_iff_of_seconds positive length).mpr (by omega)
  have long : second ≤ manager.ttl.nanos := by
    simp only [length, second]
    omega
  exact ⟨finish, sum, Instant.nanos_since_nonneg sum long⟩

end Manager

/-- A login has opened a session, which ends after now, and has put it into the store of
sessions. -/
structure World.LogsIn (world : World) (manager : Manager) (credentials : Credentials)
    (user : User) (session : Session) : Prop where
  result : (world.attempt (manager.login credentials)).1 = .ok (session, user.id)
  identity : session.identity = ⟨user.id, user.role⟩
  ends : world.now.add? manager.ttl = some session.expiresAt
  endsLater : world.now < session.expiresAt
  stored : ∃ expires, (world.attempt (manager.login credentials)).2.sessions.find? session.token =
    some ⟨session.identity.encode, some expires⟩

/-- Up to an instant everybody who has an account and the right password can log in. -/
def Manager.LogsInUntil (manager : Manager) (checked : Instant) : Prop :=
  ∀ (world : World) (credentials : Credentials) (user : User), world.core.IsReachable →
    world.now ≤ checked → world.users.find? credentials.email = some user →
    manager.hasher.verifies (Octets.ofText credentials.password) user.password = true →
    ∃ session, world.LogsIn manager credentials user session

theorem World.exists_logsIn {world : World} {manager : Manager} {credentials : Credentials}
    {user : User} (sound : world.core.IsSound) (canOpen : manager.CanOpen world.now)
    (lasts : 0 < manager.ttl.nanos) (found : world.users.find? credentials.email = some user)
    (right : manager.hasher.verifies (Octets.ofText credentials.password) user.password = true) :
    ∃ session, world.LogsIn manager credentials user session := by
  obtain ⟨⟨session, lifetime⟩, opened⟩ :
      ∃ opened, manager.openSession user world.now world.core.nextToken = .ok opened :=
    Manager.exists_openSession_iff.mpr canOpen
  obtain ⟨expires, expiry, -⟩ := Manager.exists_expiry_of_openSession opened
  obtain ⟨token, identity, sum, -⟩ := Manager.eq_of_openSession opened
  have notBlank : session.token.isEmpty = false := token ▸ Token.isEmpty_ofBytes _
  have entered := @Core.login_ok_of_expiry world.core manager credentials user session lifetime _
    sound found right opened notBlank expiry
  rw [attempt_core] at entered
  obtain ⟨result, after⟩ := Prod.mk.inj entered
  refine ⟨session, result, identity, sum, Instant.lt_of_add? sum lasts, expires, ?_⟩
  have stored := congrArg (fun core => core.sessions.find? session.token) after
  exact stored.trans ((ExpiringMap.find?_insert _ _ _ _).trans (if_pos rfl))

namespace Settings

variable {settings : Settings} {now : Instant}

theorem logsInUntil_of_areValid {manager : Manager} (valid : settings.AreValid now)
    (length : manager.ttl.nanos = settings.sessionSeconds * second) : manager.LogsInUntil now := by
  intro world credentials user reachable early found right
  have lasts : 0 < manager.ttl.nanos := by
    have positive := valid.positive
    simp only [length, second]
    omega
  exact World.exists_logsIn reachable.isRegular.sound
    (Manager.canOpen_of_seconds valid.positive length valid.ends early) lasts found right

/-- Validation at an instant tells exactly which settings make a service that lets people log in up
to that instant, and why the others do not. -/
structure AreJudged (settings : Settings) (checked : Instant) : Prop where
  /-- Settings that are not refused make a service with the session length and the costs they
  tell. -/
  serve : settings.validate checked = .ok () →
    ∀ (start : Instant) (salts : Nat → Salt) (tokens : Nat → TokenBytes), ∃ manager : Manager,
      settings.service start salts tokens = .ok ⟨manager, World.start start salts tokens⟩ ∧
      manager.ttl.nanos = settings.sessionSeconds * second ∧
      manager.hasher.costs = settings.costs ∧ manager.LogsInUntil checked
  refused : ∀ error,
    settings.validate checked = .error error ↔ settings.IsFirstFault checked error
  accepted : settings.validate checked = .ok () ↔ settings.AreValid checked
  lookedUp : ∀ lookup, (fromLookup lookup checked).1 = .ok settings →
    settings.validate checked = .ok ()

theorem areJudged (settings : Settings) (checked : Instant) : settings.AreJudged checked := by
  constructor
  case serve =>
    intro success start salts tokens
    have valid := validate_eq_ok_iff.mp success
    obtain ⟨manager, made, length, costs⟩ := exists_manager valid
    refine ⟨manager, ?_, length, costs, logsInUntil_of_areValid valid length⟩
    rw [service, made]
    rfl
  case refused => exact fun error => validate_eq_error_iff
  case accepted => exact validate_eq_ok_iff
  case lookedUp => exact fun lookup success => (told_and_valid success).2

end Settings

end SessionGate
