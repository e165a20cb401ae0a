import SessionGate.Accounts
import SessionGate.Json.Record
import SessionGate.Json.Writer
import SessionGate.Passwords

/-!
# Values in JSON

How roles, identities, credentials, registrations and derivation costs are read from JSON and
written to it.
-/

namespace SessionGate

open Json

/-- What has been read of two fields without defaults. -/
structure PairDraft (α β : Type) where
  first : Option α
  second : Option β

namespace Role

def read : Reader Role :=
  variant [("user", .user), ("moderator", .moderator)] "`user` or `moderator`"

def write (role : Role) : List Char :=
  writeText role.name

end Role

namespace Identity

/-- How an identity is read: the account's id and the role, both needed. -/
def record : Record (PairDraft UserId Role) Identity where
  wanted := "struct SessionContext"
  empty := ⟨none, none⟩
  fields :=
    [⟨"user_id", fun draft input => do
        let (value, rest) ← integer .signed64 "i64" input
        return ({ draft with first := some (Int64.ofInt value) }, rest)⟩,
      ⟨"role", fun draft input => do
        let (value, rest) ← Role.read input
        return ({ draft with second := some value }, rest)⟩]
  finish := fun draft => do
    return ⟨← required "user_id" draft.first, ← required "role" draft.second⟩
  hasDefaults := false

def read : Reader Identity :=
  record.read

def write (identity : Identity) : List Char :=
  writeObject
    [("user_id", Decimal.ofInt identity.userId.toInt), ("role", identity.role.write)]

/-- The bytes that stand for an identity in a store. -/
def encode (identity : Identity) : Octets :=
  Octets.ofText (String.ofList identity.write)

/-- The identity that bytes in a store stand for. -/
def decode (octets : Octets) : Except ReadError Identity :=
  readWhole read octets

end Identity

namespace Credentials

/-- How credentials are read: an email address and a password, both needed. -/
def record : Record (PairDraft String String) Credentials where
  wanted := "struct Credentials"
  empty := ⟨none, none⟩
  fields :=
    [⟨"email", fun draft input => do
        let (value, rest) ← text input
        return ({ draft with first := some value }, rest)⟩,
      ⟨"password", fun draft input => do
        let (value, rest) ← text input
        return ({ draft with second := some value }, rest)⟩]
  finish := fun draft => do
    return ⟨← required "email" draft.first, ← required "password" draft.second⟩
  hasDefaults := false

def read : Reader Credentials :=
  record.read

end Credentials

namespace NewUser

/-- How a registration is read: what is missing is empty, or no name. -/
def record : Record NewUser NewUser where
  wanted := "struct NewUser"
  empty := ⟨"", "", none⟩
  fields :=
    [⟨"email", fun draft input => do
        let (value, rest) ← text input
        return ({ draft with email := value }, rest)⟩,
      ⟨"password", fun draft input => do
        let (value, rest) ← text input
        return ({ draft with password := value }, rest)⟩,
      ⟨"name", fun draft input => do
        let (value, rest) ← optional text input
        return ({ draft with name := value }, rest)⟩]
  finish := .ok
  hasDefaults := true

def read : Reader NewUser :=
  record.read

end NewUser

namespace HashCosts

/-- A field of costs. -/
def costField (name : String) (range : Decimal.IntegerRange) (wanted : String)
    (put : HashCosts → Nat → HashCosts) : RecordField HashCosts :=
  ⟨name, fun draft input => do
    let (value, rest) ← integer range wanted input
    return (put draft value.toNat, rest)⟩

/-- How costs are read: what is missing is as in the standard costs. -/
def record : Record HashCosts HashCosts where
  wanted := "struct HashParams"
  empty := standard
  fields :=
    [costField "time_cost" .unsigned32 "u32" fun costs value => { costs with passes := value },
      costField "memory_kib" .unsigned32 "u32" fun costs value => { costs with memory := value },
      costField "parallelism" .unsigned32 "u32" fun costs value => { costs with lanes := value },
      costField "output_len" .unsigned64 "usize" fun costs value =>
        { costs with keyLength := value }]
  finish := .ok
  hasDefaults := true

def read : Reader HashCosts :=
  record.read

def write (costs : HashCosts) : List Char :=
  writeObject
    [("time_cost", Decimal.ofNat costs.passes), ("memory_kib", Decimal.ofNat costs.memory),
      ("parallelism", Decimal.ofNat costs.lanes), ("output_len", Decimal.ofNat costs.keyLength)]

end HashCosts

end SessionGate
