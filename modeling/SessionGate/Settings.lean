import SessionGate.Network.SocketAddress
import SessionGate.Payload
import SessionGate.Sessions
import SessionGate.Text.Blank

/-!
# Settings

A service is set up by six variables, each with a default, or by a JSON record of the same
values. Settings that have been read are valid only if a session opened now has a positive length
and a representable end, and if the derivation costs are accepted.
-/

namespace SessionGate

open Json Network Time

/-- The settings of a service. Zero seconds between sweeps mean that there are none. -/
structure Settings where
  address : SocketAddress
  sessionSeconds : Int
  costs : HashCosts
  sweepSeconds : Nat
  deriving DecidableEq

/-- What the variables set. -/
inductive Setting where
  | address
  | sessionSeconds
  | hashPasses
  | hashMemory
  | hashLanes
  | sweepSeconds
  deriving DecidableEq, Repr

def Setting.name : Setting → String
  | .address => "CATALOG_HTTP_ADDR"
  | .sessionSeconds => "CATALOG_SESSION_TTL_SECS"
  | .hashPasses => "CATALOG_HASH_TIME_COST"
  | .hashMemory => "CATALOG_HASH_MEMORY_KIB"
  | .hashLanes => "CATALOG_HASH_PARALLELISM"
  | .sweepSeconds => "CATALOG_SWEEP_INTERVAL_SECS"

/-- Why a value of a variable cannot be read. -/
inductive ValueError where
  | noAddress
  | noInteger (error : Decimal.IntegerError)
  deriving DecidableEq, Repr

def ValueError.message : ValueError → String
  | .noAddress => SocketAddress.invalidText
  | .noInteger error => error.message

/-- Why there are no settings, or no service with them. -/
inductive SettingsError where
  | unreadable (setting : Setting) (written : String) (error : ValueError)
  | sessionNotPositive (seconds : Int)
  | sessionTooLong (seconds : Int)
  | expiryOutOfRange (seconds : Int)
  | invalidCosts (error : AuthError)
  | noHasher (error : AuthError)
  deriving DecidableEq, Repr

namespace SettingsError

def message : SettingsError → String
  | .unreadable setting written error =>
      setting.name ++ "=" ++ Text.quote written ++ ": " ++ error.message
  | .sessionNotPositive seconds =>
      "session_ttl_secs must be positive, got " ++ Decimal.text seconds
  | .sessionTooLong seconds => "session_ttl_secs=" ++ Decimal.text seconds ++ " is out of range"
  | .expiryOutOfRange seconds =>
      "session_ttl_secs=" ++ Decimal.text seconds ++
        " puts session expiry past the representable date range"
  | .invalidCosts _ => "hash parameters"
  | .noHasher _ => "While building password hasher"

/-- The wording of what a settings error comes from, if that is another failure. -/
def cause? : SettingsError → Option String
  | .invalidCosts error | .noHasher error => some error.message
  | _ => none

end SettingsError

namespace Settings

/-- The settings where nothing is set. -/
def standard : Settings :=
  ⟨⟨.four #v[0, 0, 0, 0], 7878⟩, 86400, HashCosts.standard, 5⟩

/-! ## Variables -/

/-- A computation that reads variables one after another and may stop at one; the variables it
has read are kept in order. -/
abbrev Reading (α : Type) := ExceptT SettingsError (StateM (List Setting)) α

/-- Read a variable, blanks at its ends not counting, or take the default if it is not set. -/
def readSetting {α : Type} (lookup : Setting → Option String)
    (read : String → Except ValueError α) (default : α) (setting : Setting) : Reading α := do
  modify (· ++ [setting])
  match lookup setting with
  | none => return default
  | some written =>
      match read (Text.trim written) with
      | .ok value => return value
      | .error error => throw (.unreadable setting written error)

def readAddress (written : String) : Except ValueError SocketAddress :=
  match SocketAddress.read? written with
  | some address => .ok address
  | none => .error .noAddress

def readInteger (range : Decimal.IntegerRange) (written : String) : Except ValueError Int :=
  (range.read written).mapError .noInteger

/-- Read a number of a range that starts at zero. -/
def readNatural (range : Decimal.IntegerRange) (written : String) : Except ValueError Nat :=
  (readInteger range written).map Int.toNat

def readVariables (lookup : Setting → Option String) : Reading Settings := do
  let costs := standard.costs
  let address ← readSetting lookup readAddress standard.address .address
  let sessionSeconds ←
    readSetting lookup (readInteger .signed64) standard.sessionSeconds .sessionSeconds
  let passes ← readSetting lookup (readNatural .unsigned32) costs.passes .hashPasses
  let memory ← readSetting lookup (readNatural .unsigned32) costs.memory .hashMemory
  let lanes ← readSetting lookup (readNatural .unsigned32) costs.lanes .hashLanes
  let sweepSeconds ←
    readSetting lookup (readNatural .unsigned64) standard.sweepSeconds .sweepSeconds
  return ⟨address, sessionSeconds, ⟨passes, memory, lanes, costs.keyLength⟩, sweepSeconds⟩

/-! ## Validity -/

/-- The length of a session as a span. -/
def sessionTtl (settings : Settings) : Except SettingsError Span :=
  match Span.ofSeconds? settings.sessionSeconds with
  | some span => .ok span
  | none => .error (.sessionTooLong settings.sessionSeconds)

/-- Refuse settings that are not valid at an instant. -/
def validate (settings : Settings) (now : Instant) : Except SettingsError Unit := do
  if settings.sessionSeconds ≤ 0 then
    throw (.sessionNotPositive settings.sessionSeconds)
  let ttl ← settings.sessionTtl
  if (now.add? ttl).isNone then
    throw (.expiryOutOfRange settings.sessionSeconds)
  let _ ← (Hasher.ofCosts settings.costs).mapError .invalidCosts

/-- The session rules of a service with the settings. -/
def manager (settings : Settings) : Except SettingsError Manager := do
  let hasher ← (Hasher.ofCosts settings.costs).mapError .noHasher
  return ⟨hasher, ← settings.sessionTtl⟩

/-- Read and validate settings, with the variables read up to the end or the first error. -/
def fromLookup (lookup : Setting → Option String) (now : Instant) :
    Except SettingsError Settings × List Setting :=
  (do
    let settings ← readVariables lookup
    ofExcept (settings.validate now)
    return settings : Reading Settings).run.run []

/-- Read and validate settings from an environment of bytes. A variable whose bytes are no text
counts as not set. -/
def fromEnvironment (environment : String → Option Octets) (now : Instant) :
    Except SettingsError Settings :=
  (fromLookup (fun setting => (environment setting.name).bind Octets.toText?) now).1

/-! ## JSON -/

/-- How settings are read from JSON: what is missing is as in the standard settings. -/
def record : Record Settings Settings where
  wanted := "struct AuthConfig"
  empty := standard
  fields :=
    [⟨"http_addr", fun draft input => do
        let read written := (readAddress written).mapError ValueError.message
        let (value, rest) ← textOf "socket address" read input
        return ({ draft with address := value }, rest)⟩,
      ⟨"session_ttl_secs", fun draft input => do
        let (value, rest) ← integer .signed64 "i64" input
        return ({ draft with sessionSeconds := value }, rest)⟩,
      ⟨"hash", fun draft input => do
        let (value, rest) ← HashCosts.read input
        return ({ draft with costs := value }, rest)⟩,
      ⟨"sweep_interval_secs", fun draft input => do
        let (value, rest) ← integer .unsigned64 "u64" input
        return ({ draft with sweepSeconds := value.toNat }, rest)⟩]
  finish := .ok
  hasDefaults := true

def read : Reader Settings :=
  record.read

def write (settings : Settings) : List Char :=
  writeObject
    [("http_addr", writeText settings.address.text),
      ("session_ttl_secs", Decimal.ofInt settings.sessionSeconds),
      ("hash", HashCosts.write settings.costs),
      ("sweep_interval_secs", Decimal.ofNat settings.sweepSeconds)]

end Settings

end SessionGate
