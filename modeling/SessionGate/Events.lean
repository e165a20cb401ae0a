/-!
# Log events

An event has a level, a channel, a message and fields in order. Requests are logged on a channel
of their own.
-/

namespace SessionGate

/-- How grave an event is. -/
inductive Level where
  | error
  | warn
  | info
  | debug
  deriving DecidableEq, Repr

def Level.name : Level → String
  | .error => "ERROR"
  | .warn => "WARN"
  | .info => "INFO"
  | .debug => "DEBUG"

/-- Where an event goes: to the log of the service, or to the log of requests. -/
inductive Channel where
  | service
  | access
  deriving DecidableEq, Repr

/-- One event of the log. -/
structure Event where
  level : Level
  channel : Channel
  message : String
  fields : List (String × String)
  deriving DecidableEq, Repr

def Event.service (level : Level) (message : String) (fields : List (String × String)) : Event :=
  ⟨level, .service, message, fields⟩

end SessionGate
