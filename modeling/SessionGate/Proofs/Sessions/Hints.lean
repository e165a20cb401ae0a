import SessionGate.Proofs.Http.Cookie
import SessionGate.Proofs.World.Core
import SessionGate.Proofs.World.Traces

/-!
# What the log tells of tokens

Ending a session and refusing a carrier that has ended are logged with the hint of the token. So
the log tells a token of more than six bytes exactly if a character straddles the end of the sixth,
whatever the store of sessions answers and whatever it logs itself.
-/

namespace SessionGate

open SessionGate.Action Time

/-- The text stands in what a field of the event says. -/
def Event.Tells (event : Event) (text : String) : Prop :=
  ∃ field ∈ event.fields, text.toList <:+: field.2.toList

namespace Token

/-- The event that tells of the end of a session. -/
def revocation (token : String) : Event :=
  .service .debug "session revoked" [("token", hint token)]

/-- The event that tells of a carrier that has ended. -/
def lapse (token : String) : Event :=
  .service .debug "carrier already expired" [("token", hint token)]

variable {token : String}

theorem not_tells_of_utf8ByteSize_lt {level : Level} {message name text : String}
    (shorter : text.utf8ByteSize < token.utf8ByteSize) :
    ¬ (Event.service level message [(name, text)]).Tells token := by
  rintro ⟨field, member, within⟩
  cases List.mem_singleton.mp member
  have size := String.utf8Len_le_of_infix within
  rw [utf8Len_toList, utf8Len_toList] at size
  exact absurd size (Nat.not_le.mpr shorter)

/-- An event with the hint of a long token alone tells the token exactly if it is straddled. -/
theorem tells_hint_iff (long : hintSize < token.utf8ByteSize) (level : Level) (message : String) :
    (Event.service level message [("token", hint token)]).Tells token ↔ IsStraddled token := by
  constructor
  · intro tells
    by_contra whole
    exact not_tells_of_utf8ByteSize_lt (keepsBack_hint long whole).utf8ByteSize_lt tells
  · intro straddled
    exact ⟨_, List.mem_singleton_self _, [], [], by simp [hint_of_isStraddled straddled]⟩

theorem isEmpty_of_long (long : hintSize < token.utf8ByteSize) : token.isEmpty = false := by
  rw [Bool.eq_false_iff, ne_eq, String.isEmpty_iff]
  rintro rfl
  cases long

end Token

/-! ## Operations -/

variable {token : String} {turns : List Turn}

/-- Logout asks the store and logs the revocation if that has succeeded. -/
theorem Manager.proceeds_logout_iff (given : token.isEmpty = false)
    {result : Except AuthError Unit} :
    Program.Proceeds (logout token).run turns result ↔
      (∃ error, turns = [⟨.deleteSession token, .error error⟩] ∧ result = .error error) ∨
        turns = [⟨.deleteSession token, .ok ()⟩, ⟨.log (Token.revocation token), ()⟩] ∧
          result = .ok () := by
  rw [logout, given, if_neg Bool.false_ne_true, proceeds_bind_iff]
  constructor
  · rintro (⟨error, asked, rfl⟩ | ⟨first, rest, value, rfl, asked, logged⟩)
    · exact .inl ⟨error, Program.proceeds_query_iff.mp asked, rfl⟩
    · obtain rfl := Program.proceeds_query_iff.mp asked
      obtain ⟨rfl, rfl⟩ := proceeds_logService_iff.mp logged
      exact .inr ⟨rfl, rfl⟩
  · rintro (⟨error, rfl, rfl⟩ | ⟨rfl, rfl⟩)
    · exact .inl ⟨error, Program.proceeds_query_iff.mpr rfl, rfl⟩
    · exact .inr ⟨[_], [_], (), rfl, Program.proceeds_query_iff.mpr rfl,
        proceeds_logService_iff.mpr ⟨rfl, rfl⟩⟩

namespace Gate

variable {expires : Instant}

/-- The clock is read, and what has ended by then is refused with an event. -/
theorem proceeds_checkExpiry_iff {result : Except AuthError Unit} :
    Program.Proceeds (checkExpiry ⟨token, some expires⟩).run turns result ↔
      ∃ now rest, turns = ⟨.readClock, now⟩ :: rest ∧
        if expires ≤ now then
          rest = [⟨.log (Token.lapse token), ()⟩] ∧ result = .error .unauthorized
        else rest = [] ∧ result = .ok () := by
  have refuses {rest : List Turn} {result : Except AuthError Unit} :
      Program.Proceeds (do
        logService .debug "carrier already expired" [("token", Token.hint token)]
        throw .unauthorized : Action Unit).run rest result ↔
      rest = [⟨.log (Token.lapse token), ()⟩] ∧ result = .error .unauthorized := by
    refine proceeds_perform_query_bind_iff.trans ?_
    constructor
    · rintro ⟨_, later, rfl, thrown⟩
      obtain ⟨rfl, rfl⟩ := proceeds_settled_iff.mp thrown
      exact ⟨rfl, rfl⟩
    · rintro ⟨rfl, rfl⟩
      exact ⟨(), [], rfl, proceeds_settled_iff.mpr ⟨rfl, rfl⟩⟩
  rw [checkExpiry]
  refine proceeds_perform_query_bind_iff.trans ?_
  refine exists_congr fun now => exists_congr fun rest => and_congr_right fun _ => ?_
  dsimp only
  split
  case isTrue late => exact refuses
  case isFalse early => exact proceeds_settled_iff

theorem proceeds_authenticate_lapsed_iff {now : Instant} (late : expires ≤ now)
    {result : Except AuthError Identity} :
    Program.Proceeds (authenticate (some ⟨token, some expires⟩)).run
        (⟨.readClock, now⟩ :: turns) result ↔
      turns = [⟨.log (Token.lapse token), ()⟩] ∧ result = .error .unauthorized := by
  refine proceeds_bind_iff.trans ?_
  constructor
  · rintro (⟨error, refused, rfl⟩ | ⟨first, rest, value, divided, passed, -⟩)
    · obtain ⟨_, rest, same, judged⟩ := proceeds_checkExpiry_iff.mp refused
      cases same
      rw [if_pos late] at judged
      obtain ⟨rfl, ⟨⟩⟩ := judged
      exact ⟨rfl, rfl⟩
    · obtain ⟨_, later, rfl, judged⟩ := proceeds_checkExpiry_iff.mp passed
      cases divided
      rw [if_pos late] at judged
      cases judged.2
  · rintro ⟨rfl, rfl⟩
    refine .inl ⟨.unauthorized, proceeds_checkExpiry_iff.mpr ⟨now, _, rfl, ?_⟩, rfl⟩
    rw [if_pos late]
    exact ⟨rfl, rfl⟩

end Gate

/-! ## Worlds -/

namespace World

/-- The event with which the store of sessions tells of a deletion. -/
def deletion (existed : Bool) : Event :=
  .service .debug "session deleted" [("existed", if existed then "true" else "false")]

theorem exists_events_deleteSession (given : token.isEmpty = false) (world : World) :
    ∃ own : List Event, (∀ event ∈ own, ∃ existed, event = deletion existed) ∧
      (world.attempt (Action.deleteSession token)).2.events = world.events ++ own := by
  have noted : (world.noted (.deleteSession token)).events = world.events := by
    simp [World.noted, Question.isStoreCall, events]
  change ∃ own : List Event, _ ∧ ((world.noted (.deleteSession token)).viaSessionStore none
    (deleteSession token)).2.events = _
  rw [← noted]
  generalize world.noted (.deleteSession token) = world
  have deletes : (deleteSession token world).2.events =
      world.events ++ [deletion (world.deleteEntry token).1] := by
    rw [deleteSession, given, if_neg Bool.false_ne_true]
    exact events_logged _ _
  rw [viaSessionStore]
  cases world.sessionStore with
  | failing report => exact ⟨[], by simp, (List.append_nil _).symm⟩
  | sound | forgetful =>
      exact ⟨[deletion _], fun _ member => ⟨_, List.mem_singleton.mp member⟩, deletes⟩

theorem exists_events_logout (given : token.isEmpty = false) (world : World) :
    ∃ added : List Event,
      (∀ event ∈ added, event = Token.revocation token ∨ ∃ existed, event = deletion existed) ∧
      ((world.attempt (Manager.logout token)).1 = .ok () → Token.revocation token ∈ added) ∧
      (world.attempt (Manager.logout token)).2.events = world.events ++ added := by
  obtain ⟨own, ofStore, told⟩ := exists_events_deleteSession given world
  rw [Manager.logout, given, if_neg Bool.false_ne_true, attempt_bind]
  generalize world.attempt (Action.deleteSession token) = deleted at told ⊢
  obtain ⟨error | _, after⟩ := deleted
  · exact ⟨own, fun event member => .inr (ofStore event member), nofun, told⟩
  · refine ⟨own ++ [Token.revocation token], fun event member => ?_, fun _ => by simp, ?_⟩
    · rcases List.mem_append.mp member with inOwn | last
      · exact .inr (ofStore event inOwn)
      · exact .inl (List.mem_singleton.mp last)
    · have logged : (after.logged (Token.revocation token)).events =
          after.events ++ [Token.revocation token] := events_logged _ after
      exact logged.trans (by rw [told, List.append_assoc])

theorem attempt_checkExpiry_some (token : String) (expires : Instant) (world : World) :
    world.attempt (Gate.checkExpiry ⟨token, some expires⟩) =
      if expires ≤ world.now then
        (.error .unauthorized, world.logged (Token.lapse token))
      else (.ok (), world) := by
  have clock : world.attempt Action.readClock = (.ok world.now, world) := rfl
  simp only [Gate.checkExpiry, attempt_bind, clock]
  by_cases ended : expires ≤ world.now <;> simp only [ended, if_true, if_false] <;> rfl

/-- A carrier that says that it has ended is refused at once, and all that happens is an event. Any
other is treated like one that says nothing. -/
theorem attempt_authenticate_declared (token : String) (expires : Instant) (world : World) :
    world.attempt (Gate.authenticate (some ⟨token, some expires⟩)) =
      if expires ≤ world.now then
        (.error .unauthorized, world.logged (Token.lapse token))
      else world.attempt (Gate.authenticate (some ⟨token, none⟩)) := by
  have silent : world.attempt (Gate.checkExpiry ⟨token, none⟩) = (.ok (), world) := rfl
  rw [Gate.authenticate, attempt_bind, attempt_checkExpiry_some, Gate.authenticate, attempt_bind,
    silent]
  by_cases ended : expires ≤ world.now <;> simp only [ended, if_true, if_false]

theorem not_tells_deletion (long : Token.hintSize < token.utf8ByteSize) (existed : Bool) :
    ¬ (deletion existed).Tells token := by
  have short : (if existed then "true" else "false" : String).utf8ByteSize ≤ Token.hintSize := by
    cases existed <;> decide
  exact Token.not_tells_of_utf8ByteSize_lt (Nat.lt_of_le_of_lt short long)

end World

/-! ## Tokens that are told -/

namespace Token

/-- What shows of a token in its hint, and in the log where a session of it is ended or a carrier of
it has ended. -/
structure ShowsByHint (token : String) : Prop where
  /-- The hint keeps a part of the token back, unless a character straddles the end of what a hint
  may show. -/
  keepsBack : KeepsBack token (hint token) ↔ ¬ IsStraddled token
  /-- In that case nothing is kept back. -/
  whole : IsStraddled token → hint token = token
  /-- Whatever the store answers, logout logs nothing but the revocation, once the store has
  forgotten the token. -/
  logout : ∀ (turns : List Turn) (result : Except AuthError Unit),
    Program.Proceeds (Manager.logout token).run turns result ↔
      (∃ error, turns = [⟨.deleteSession token, .error error⟩] ∧ result = .error error) ∨
        turns = [⟨.deleteSession token, .ok ()⟩, ⟨.log (revocation token), ()⟩] ∧ result = .ok ()
  /-- The gate does nothing but log the lapse of a carrier that has ended. -/
  gate : ∀ (expires now : Instant), expires ≤ now →
    ∀ (turns : List Turn) (result : Except AuthError Identity),
      Program.Proceeds (Gate.authenticate (some ⟨token, some expires⟩)).run
          (⟨.readClock, now⟩ :: turns) result ↔
        turns = [⟨.log (lapse token), ()⟩] ∧ result = .error .unauthorized
  revocationTells : (revocation token).Tells token ↔ IsStraddled token
  lapseTells : (lapse token).Tells token ↔ IsStraddled token
  /-- A store in memory does not tell the token of its own accord, in whatever world the session is
  ended. -/
  logoutIn : ∀ world : World, ∃ added : List Event,
    (world.attempt (Manager.logout token)).2.events = world.events ++ added ∧
      ((world.attempt (Manager.logout token)).1 = .ok () → revocation token ∈ added) ∧
      ∀ event ∈ added, event.Tells token → IsStraddled token
  gateIn : ∀ (world : World) (expires : Instant), expires ≤ world.now →
    (world.attempt (Gate.authenticate (some ⟨token, some expires⟩))).2.events =
      world.events ++ [lapse token]
  /-- Tokens that have been issued or come with a request are never told. -/
  issued : ∀ bytes : TokenBytes, ofBytes bytes = token → ¬ IsStraddled token
  carried : ∀ (headers : List Http.Header) (carrier : Carrier),
    Http.Cookie.carrier? headers = some carrier → carrier.token = token → ¬ IsStraddled token

theorem shows_by_hint {token : String} (long : hintSize < token.utf8ByteSize) :
    ShowsByHint token := by
  have given := isEmpty_of_long long
  constructor
  case keepsBack => exact keepsBack_hint_iff long
  case whole => exact hint_of_isStraddled
  case logout => exact fun turns result => Manager.proceeds_logout_iff given
  case gate => exact fun expires now late turns result => Gate.proceeds_authenticate_lapsed_iff late
  case revocationTells => exact tells_hint_iff long _ _
  case lapseTells => exact tells_hint_iff long _ _
  case logoutIn =>
    intro world
    obtain ⟨added, known, revoked, told⟩ := World.exists_events_logout given world
    refine ⟨added, told, revoked, fun event member tells => ?_⟩
    rcases known event member with rfl | ⟨existed, rfl⟩
    · exact (tells_hint_iff long _ _).mp tells
    · exact absurd tells (World.not_tells_deletion long existed)
  case gateIn =>
    intro world expires late
    rw [World.attempt_authenticate_declared, if_pos late]
    exact World.events_logged _ world
  case issued =>
    rintro bytes rfl
    exact not_isStraddled_of_narrow (narrow_ofBytes bytes)
  case carried =>
    rintro headers carrier carried rfl
    exact not_isStraddled_of_narrow (Http.Cookie.narrow_of_carrier? carried)

/-- Nine bytes whose sixth ends a character show six. -/
theorem shows_two_of_three :
    hintSize < "日本語".utf8ByteSize ∧ ShowsByHint "日本語" ∧ hint "日本語" = "日本" :=
  ⟨by decide, shows_by_hint (by decide), by decide⟩

/-- The sixth byte of this token does not end a character, and so the log tells the token. -/
theorem straddled_token_shows :
    hintSize < "abcdeéf".utf8ByteSize ∧ ¬ KeepsBack "abcdeéf" (hint "abcdeéf") ∧
      ∃ event ∈ ((World.start .epoch (fun _ => .replicate 8 0) fun _ => .replicate 32 0).attempt
        (Manager.logout "abcdeéf")).2.events, event.Tells "abcdeéf" := by
  have long : hintSize < "abcdeéf".utf8ByteSize := by decide
  have straddled : IsStraddled "abcdeéf" :=
    ⟨"abcde".toList, 'é', ['f'], by decide, by decide, by decide⟩
  refine ⟨long, fun keeps => (keepsBack_hint_iff long).mp keeps straddled, revocation _, ?_,
    (tells_hint_iff long _ _).mpr straddled⟩
  obtain ⟨added, -, revoked, told⟩ := World.exists_events_logout (isEmpty_of_long long)
    (World.start .epoch (fun _ => .replicate 8 0) fun _ => .replicate 32 0)
  rw [told]
  exact List.mem_append_right _ (revoked rfl)

end Token

end SessionGate
