import SessionGate.Proofs.Runs.Health
import SessionGate.Proofs.Store.Term

/-!
# Payloads

The store of sessions keeps bytes. The bytes of an identity are read back as that identity, whatever
its account and its role. Bytes that speak for nobody can only be written directly: whoever presents
their token meets a fault, and they stay where they are.
-/

namespace SessionGate.World

open Time

variable {world stored : World} {key token : String} {value : Octets} {entry : Entry}
  {expires : Option Instant}

theorem exists_expiry_of_setEntry {lifetime : Option Lifetime}
    (kept : world.setEntry key value lifetime = (.ok (), stored)) :
    ∃ expires, ExpiringMap.expiry world.now lifetime = .ok expires ∧
      stored = { world with sessions := world.sessions.insert key ⟨value, expires⟩ } := by
  rw [setEntry, ExpiringMap.set] at kept
  cases expiry : ExpiringMap.expiry world.now lifetime with
  | error error =>
      rw [expiry] at kept
      cases kept
  | ok expires =>
      rw [expiry] at kept
      cases kept
      exact ⟨expires, rfl, rfl⟩

/-- An entry that is set for some time has not expired when it is set. -/
theorem isExpired_of_expiry {now : Instant} {lifetime : Lifetime} (positive : 0 < lifetime.nanos)
    (expiry : ExpiringMap.expiry now (some lifetime) = .ok expires) :
    Entry.isExpired ⟨value, expires⟩ now = false := by
  obtain ⟨span, finish, length, sum, rfl⟩ := ExpiringMap.exists_add?_of_expiry expiry
  have spanPositive : 0 < span.nanos := length ▸ Int.ofNat_lt.mpr positive
  exact decide_eq_false (Instant.not_le.mpr (Instant.lt_of_add? sum spanPositive))

/-- An identity that has been stored for some time is there at once. -/
theorem live?_of_putSession {identity : Identity} {lifetime : Lifetime}
    (notBlank : token.isEmpty = false) (positive : 0 < lifetime.nanos)
    (kept : world.putSession token identity lifetime = (.ok (), stored)) :
    ∃ expires, ExpiringMap.expiry world.now (some lifetime) = .ok expires ∧
      stored.sessions.live? stored.now token = some ⟨identity.encode, expires⟩ := by
  have answered := putSession_fst notBlank identity lifetime world
  have left := core_putSession notBlank identity lifetime world
  rw [kept] at answered left
  have set : world.setEntry token identity.encode (some lifetime) =
      (.ok (), (world.setEntry token identity.encode (some lifetime)).2) :=
    Prod.ext answered.symm rfl
  obtain ⟨expires, expiry, written⟩ := exists_expiry_of_setEntry set
  rw [written] at left
  have now : stored.now = world.now := congrArg Core.now left
  have sessions : stored.sessions = world.sessions.insert token ⟨identity.encode, expires⟩ :=
    congrArg Core.sessions left
  refine ⟨expires, expiry, ExpiringMap.live?_eq_some_iff.mpr ⟨?_, ?_⟩⟩
  · rw [sessions, ExpiringMap.find?_insert, if_pos rfl]
  · rw [now]
    exact isExpired_of_expiry positive expiry

/-- A look at a token finds what the bytes of its entry say, and leaves the entry where it is. -/
theorem getSession_of_live (notBlank : token.isEmpty = false)
    (live : world.sessions.live? world.now token = some entry) :
    world.getSession token =
      ((Identity.decode entry.value).mapError fun error => .internal (.undecodableEntry error),
        world) := by
  rw [getSession_of_notBlank notBlank]
  have looked : world.sessions.get world.now token = (some entry.value, world.sessions) := by
    refine Prod.ext ?_ (ExpiringMap.get_snd_of_live? live)
    rw [ExpiringMap.get_fst, live, Option.map_some]
  rw [getEntry, looked]
  rfl

/-- What a look at a token finds while an entry stands under it that has not expired. It tells whom
the bytes of the entry speak for, or a fault if they speak for nobody; the entry stays. -/
structure TellsPayload (world : World) (token : String) (value : Octets) : Prop where
  told : ∀ identity,
    (world.getSession token).1 = .ok identity ↔ Identity.decode value = .ok identity
  fault : (∀ identity, Identity.decode value ≠ .ok identity) →
    ∃ fault, (world.getSession token).1 = .error (.internal fault)
  stays : (world.getSession token).2 = world

theorem tellsPayload_of_live (notBlank : token.isEmpty = false)
    (live : world.sessions.live? world.now token = some entry) :
    world.TellsPayload token entry.value := by
  have looked := getSession_of_live notBlank live
  constructor
  case told =>
    intro identity
    rw [looked]
    cases Identity.decode entry.value <;> simp [Except.mapError]
  case fault =>
    intro undecodable
    rw [looked]
    cases decoded : Identity.decode entry.value with
    | ok identity => exact absurd decoded (undecodable identity)
    | error error => exact ⟨.undecodableEntry error, rfl⟩
  case stays => rw [looked]

/-- The store gives back what is put there, and takes other bytes for what they are. -/
structure ReturnsPayloads (world : World) : Prop where
  /-- While the clock stands still, an identity that is stored for some time is found. -/
  returned : ∀ token identity lifetime stored, 0 < lifetime.nanos →
    world.putSession token identity lifetime = (.ok (), stored) →
      stored.getSession token = (.ok identity, stored)
  /-- Bytes that are written directly are told as long as their entry stands. -/
  written : ∀ token value lifetime stored, token.isEmpty = false →
    world.setEntry token value lifetime = (.ok (), stored) →
      ∃ expires, ExpiringMap.expiry world.now lifetime = .ok expires ∧
        stored.sessions.find? token = some ⟨value, expires⟩ ∧
        ∀ after : World, after.sessions.find? token = some ⟨value, expires⟩ →
          Entry.isExpired ⟨value, expires⟩ after.now = false → after.TellsPayload token value

theorem returnsPayloads (world : World) : world.ReturnsPayloads := by
  constructor
  case returned =>
    intro token identity lifetime stored positive kept
    cases blank : token.isEmpty with
    | true =>
        rw [putSession_of_blank blank] at kept
        cases kept
    | false =>
        obtain ⟨expires, expiry, live⟩ := live?_of_putSession blank positive kept
        rw [getSession_of_live blank live, Identity.decode_encode]
        rfl
  case written =>
    intro token value lifetime stored notBlank kept
    obtain ⟨expires, expiry, rfl⟩ := exists_expiry_of_setEntry kept
    refine ⟨expires, expiry, ?_, ?_⟩
    · rw [ExpiringMap.find?_insert, if_pos rfl]
    intro after found running
    exact tellsPayload_of_live notBlank (ExpiringMap.live?_eq_some_iff.mpr ⟨found, running⟩)

/-- Identities come back from the store of sessions whatever their account and their role, and no
two of them are written alike. Unless bytes are written directly, no look at any token meets bytes
that speak for nobody. -/
theorem payloads_come_back :
    Function.Injective Identity.encode ∧ (∀ world : World, world.ReturnsPayloads) ∧
    ∀ now salts tokens (acts : List Act), (∀ act ∈ acts, ¬ act.IsRawWrite) →
      ∀ token, IsFaultless (((start now salts tokens).enact acts).getSession token).1 := by
  refine ⟨Identity.encode_injective, returnsPayloads, ?_⟩
  intro now salts tokens acts notRaw token
  have healthy : ((start now salts tokens).enact acts).core.Healthy :=
    enact_induction (fun world => world.core.Healthy) (fun _ _ => healthy_perform)
      (.start now salts tokens) notRaw
  exact isFaultless_getSession healthy token

end SessionGate.World
