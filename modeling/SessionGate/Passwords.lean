import SessionGate.Program

/-!
# Password records

A record is a salt of eight bytes followed by the Argon2id key of the password with that salt.
Checking a password derives the key again from the salt in the record.
-/

namespace SessionGate

open Hash

def saltLength : Nat := 8

/-- Derivation costs as they are configured, named as in configurations. -/
abbrev HashCosts := Argon2id.Costs

namespace HashCosts

/-- The costs of a deployment that sets none: 64 MiB in four lanes, one pass. -/
def standard : HashCosts := ⟨1, 65536, 4, 32⟩

/-- Cheap costs for trying things out. -/
def cheap : HashCosts := ⟨1, 256, 4, 32⟩

def inspect (costs : HashCosts) : String :=
  Text.showRecord "HashParams"
    [⟨"time_cost", Decimal.text costs.passes⟩, ⟨"memory_kib", Decimal.text costs.memory⟩,
      ⟨"parallelism", Decimal.text costs.lanes⟩, ⟨"output_len", Decimal.text costs.keyLength⟩]
    false

end HashCosts

/-- Accepted derivation costs. -/
structure Hasher where
  costs : HashCosts
  accepted : costs.refusal? = none
  deriving DecidableEq

namespace Hasher

/-- The hasher of costs that are not refused. -/
def ofCosts (costs : HashCosts) : Except AuthError Hasher :=
  match refused : costs.refusal? with
  | none => .ok ⟨costs, refused⟩
  | some error => .error (.internal (.costs error))

def inspect (hasher : Hasher) : String :=
  Text.showRecord "PasswordHasher" [⟨"params", hasher.costs.inspect⟩] false

/-- Why a password and salt have no record. -/
def refusal? (password salt : Octets) : Option HashError :=
  if 0xffffffff < password.length then some .passwordTooLong
  else if salt.length < 8 then some .saltTooShort
  else if 0xffffffff < salt.length then some .saltTooLong
  else none

/-- The record of a password with a given salt. -/
def record (hasher : Hasher) (password salt : Octets) : Except AuthError PasswordRecord :=
  match refusal? password salt with
  | some error => .error (.internal (.hashing error))
  | none => .ok ⟨salt ++ Argon2id.key hasher.costs password salt⟩

/-- The record of a text with a given salt. A text is judged by its size before its bytes are laid
out. -/
def textRecord (hasher : Hasher) (password : String) (salt : Octets) :
    Except AuthError PasswordRecord :=
  if 0xffffffff < password.utf8ByteSize then .error (.internal (.hashing .passwordTooLong))
  else hasher.record (Octets.ofText password) salt

theorem textRecord_eq (hasher : Hasher) (password : String) (salt : Octets) :
    hasher.textRecord password salt = hasher.record (Octets.ofText password) salt := by
  rw [textRecord]
  split
  case isTrue long =>
    rw [← Octets.length_ofText] at long
    rw [record, refusal?, if_pos long]
  case isFalse => rfl

/-- The record of a password with a fresh salt. -/
def freshRecord (hasher : Hasher) (password : Octets) : Action PasswordRecord := do
  let salt ← Action.drawSalt
  ExceptT.mk (pure (hasher.record password salt.toList))

/-- The record of a text with a fresh salt. -/
def freshTextRecord (hasher : Hasher) (password : String) : Action PasswordRecord := do
  let salt ← Action.drawSalt
  ExceptT.mk (pure (hasher.textRecord password salt.toList))

theorem freshTextRecord_eq (hasher : Hasher) (password : String) :
    hasher.freshTextRecord password = hasher.freshRecord (Octets.ofText password) := by
  simp only [freshTextRecord, freshRecord, textRecord_eq]

/-- Compare two byte sequences without stopping at the first difference. -/
def sameOctets (left right : Octets) : Bool :=
  left.length == right.length &&
    (left.zip right).foldl (fun difference (a, b) => difference ||| (a ^^^ b)) 0 == 0

/-- What checking a password against a record comes to: a record that is too short to hold a key
is malformed, and a password or salt without a record cannot be checked. -/
inductive Check where
  | malformed
  | failed (error : AuthError)
  | compared (isSame : Bool)
  deriving DecidableEq, Repr

def check (hasher : Hasher) (password : Octets) (stored : PasswordRecord) : Check :=
  if stored.octets.length ≤ saltLength then .malformed
  else match hasher.record password (stored.octets.take saltLength) with
    | .ok candidate => .compared (sameOctets candidate.octets stored.octets)
    | .error error => .failed error

/-- Whether a password is the one of a record. -/
def verifies (hasher : Hasher) (password : Octets) (stored : PasswordRecord) : Bool :=
  hasher.check password stored == .compared true

/-- Check a password against a record, and log a record that cannot be checked. -/
def verify (hasher : Hasher) (password : Octets) (stored : PasswordRecord) : Program Bool :=
  match hasher.check password stored with
  | .compared isSame => pure isSame
  | .malformed => do
      Program.logService .error "malformed password record"
        [("len", Decimal.text stored.octets.length)]
      pure false
  | .failed error => do
      Program.logService .error "password verification could not hash" [("error", error.message)]
      pure false

end Hasher

end SessionGate
