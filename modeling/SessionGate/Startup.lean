import SessionGate.LogFilter
import SessionGate.Settings
import SessionGate.World

/-!
# Starting up

A service starts from its environment. The settings are read and validated, the stores begin
empty, and the log tells what has been set up. A service that cannot start reports why.
-/

namespace SessionGate

open Time

/-- A service with its surroundings. -/
structure Service where
  manager : Manager
  world : World

/-- The service of settings, with empty stores. -/
def Settings.service (settings : Settings) (now : Instant) (salts : Nat → Salt)
    (tokens : Nat → TokenBytes) : Except SettingsError Service :=
  settings.manager.map fun manager => ⟨manager, World.start now salts tokens⟩

namespace Startup

/-- A line of the log before requests are served. -/
structure LogLine where
  level : Level
  target : String
  message : String
  deriving DecidableEq, Repr

/-- A character as it stands in the log. Controls that could steer a terminal are written by their
code points. -/
def inLog (character : Char) : List Char :=
  match character with
  | '\x1b' => "\\x1b".toList
  | '\x07' => "\\x07".toList
  | '\x08' => "\\x08".toList
  | '\x0c' => "\\x0c".toList
  | '\x7f' => "\\x7f".toList
  | _ =>
      if 0x80 ≤ character.toNat ∧ character.toNat ≤ 0x9f then
        ['\\', 'u', '\x7b'] ++ Nat.toDigits 16 character.toNat ++ ['\x7d']
      else [character]

def LogLine.text (line : LogLine) : String :=
  line.level.name ++ " " ++ line.target ++ ": " ++
    String.ofList (line.message.toList.flatMap inLog)

/-- What starting comes to. -/
inductive Outcome where
  | refused (error : SettingsError)
  | ready (settings : Settings) (manager : Manager)

/-- The text that tells why a service cannot start, with what that comes from. -/
def report (error : SettingsError) : String :=
  let cause :=
    match error.cause? with
    | none => ""
    | some cause => "\n\nCaused by:\n    " ++ cause
  "Error: " ++ error.message ++ cause ++ "\n"

/-- The name under which the log filter is set. -/
def filterVariable : String := "RUST_LOG"

/-- The text of a variable of the environment. -/
def textOf (environment : String → Option Octets) (name : String) : Option String :=
  (environment name).bind Octets.toText?

/-- The filter of an environment; one that cannot be read is the standard one. -/
def filter (environment : String → Option Octets) : LogFilter :=
  ((textOf environment filterVariable).bind LogFilter.read?).getD LogFilter.standard

/-- The line that shows the settings of a service. -/
def banner (environment : String → Option Octets) (settings : Settings) : LogLine :=
  ⟨.info, "catalog_auth",
    "catalog-auth starting: RUST_LOG='" ++
      (textOf environment filterVariable).getD "<unset>" ++
      "', http_addr=" ++ settings.address.text ++
      ", session_ttl_secs=" ++ Decimal.text settings.sessionSeconds ++
      ", hash=" ++ HashCosts.inspect settings.costs ++
      ", sweep_interval_secs=" ++ Decimal.text settings.sweepSeconds⟩

/-- The lines up to the point at which requests are served. -/
def lines (environment : String → Option Octets) (settings : Settings) : List LogLine :=
  let sweeper : List LogLine :=
    if settings.sweepSeconds = 0 then
      [⟨.info, "catalog_auth::server", "session sweeper disabled"⟩]
    else []
  let start : LogLine :=
    ⟨.info, "catalog_auth::server", "Starting server on " ++ settings.address.text⟩
  (banner environment settings :: sweeper ++ [start]).filter fun line =>
    (filter environment).admits line.target ["message"] line.level

def start (environment : String → Option Octets) (now : Instant) : Outcome :=
  match Settings.fromEnvironment environment now with
  | .error error => .refused error
  | .ok settings =>
      match settings.manager with
      | .error error => .refused error
      | .ok manager => .ready settings manager

end Startup

end SessionGate
