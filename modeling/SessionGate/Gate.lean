import SessionGate.Sessions

/-!
# The gate

The gate turns what a caller carries into an identity or refuses. Roles are checked afterwards,
by the operations that need one.
-/

namespace SessionGate

open Time

/-- What a caller carries: a token, and when the carrier itself says that it ends. -/
structure Carrier where
  token : String
  expires : Option Instant
  deriving DecidableEq

namespace Gate

/-- Refuse a carrier that says that it has ended. -/
def checkExpiry (carrier : Carrier) : Action Unit := do
  match carrier.expires with
  | none => pure ()
  | some expires =>
      let now ← Action.readClock
      if expires ≤ now then
        Action.logService .debug "carrier already expired" [("token", Token.hint carrier.token)]
        throw .unauthorized

/-- The identity that a carrier speaks for. Nobody's identity is refused. -/
def authenticate (carrier : Option Carrier) : Action Identity := do
  match carrier with
  | none => throw .unauthorized
  | some carrier =>
      checkExpiry carrier
      let identity ← Manager.resolve carrier.token
      if identity.userId = 0 then
        throw .unauthorized
      return identity

/-- Refuse an identity whose role is not enough. -/
def requireRole (identity : Identity) (required : Role) : Action Unit := do
  if !identity.role.satisfies required then
    Action.logService .debug "capability denied"
      [("user_id", Decimal.text identity.userId.toInt), ("role", identity.role.name),
        ("required", required.name)]
    throw .forbidden

end Gate

end SessionGate
