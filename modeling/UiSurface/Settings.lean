import UiSurface.Number.Grouped
import UiSurface.Record
import UiSurface.Text.Quoted
import UiSurface.Text.UpperCase

/-!
# Settings — what the service takes from its environment

Each setting has a variable and a default.  The settings are read one after the other and the first
that cannot be read is reported; what a setting may be is judged when all are read, and then holds
of every `Settings`.
-/

namespace UiSurface

/-- The settings of the service. -/
structure Settings where
  designsDirectory : String
  /-- whether the older form of data model update is accepted -/
  acceptsOverlay : Bool
  /-- the path of the socket -/
  socketPath : String
  /-- how many failures in a row make a device give up -/
  maxAttempts : Int
  /-- the cap of a device's wait, in seconds -/
  maxDelay : Binary64
  logLevel : String
  environment : String
  /-- the path of the socket is absolute -/
  rooted : socketPath.toList.head? = some '/'
  /-- a device tries at least once -/
  attempts_pos : 1 ≤ maxAttempts

namespace Settings

/-- Why there are no settings. -/
inductive Fault where
  | notInteger (text : String)
  | digits (fault : TooManyDigits)
  | notNumber (text : String)
  | socketPath
  | attempts
deriving DecidableEq

/-- The most characters of a text that a fault shows. -/
def shownLength : Nat := 200

def Fault.message : Fault → String
  | notInteger text =>
    "invalid literal for int() with base 10: " ++
      String.ofList ((Text.quote text).toList.take shownLength)
  | digits fault => fault.message
  | notNumber text => "could not convert string to float: " ++ Text.quote text
  | socketPath => "WS_PATH must start with '/'"
  | attempts => "RECONNECT_MAX_ATTEMPTS must be at least 1"

/-! ## Reading one setting -/

/-- The value of a variable of the environment, or its default. -/
def valueOr (environment : Record String) (name default : String) : String :=
  (Record.get? environment name).getD default

/-- Whether a text says yes, white space and case aside (`_env_bool`). -/
def saysYes (text : String) : Bool :=
  ["1", "true", "yes", "on"].contains (String.ofList ((Text.trim text.toList).map Char.toLower))

def integer (text : String) : Except Fault Int :=
  match Numeral.groupedInteger text.toList with
  | .ok n => .ok n
  | .error .malformed => .error (.notInteger text)
  | .error (.digits fault) => .error (.digits fault)

def number (text : String) : Except Fault Binary64 :=
  match Numeral.groupedFloat? text.toList with
  | some x => .ok x
  | none => .error (.notNumber text)

/-! ## Reading all settings -/

/-- Reads the settings from an environment. -/
def ofEnvironment (environment : Record String) : Except Fault Settings := do
  let acceptsOverlay := (Record.get? environment "A2UI_ACCEPT_LEGACY_DATA_MODEL").map saysYes
  let socketPath := valueOr environment "WS_PATH" "/ws"
  let maxAttempts ← integer (valueOr environment "RECONNECT_MAX_ATTEMPTS" "10")
  let maxDelay ← number (valueOr environment "RECONNECT_MAX_DELAY" "30")
  -- both numbers are read before either condition is judged
  if rooted : socketPath.toList.head? = some '/' then
    if attempts_pos : 1 ≤ maxAttempts then
      return {
        designsDirectory := valueOr environment "A2UI_DESIGNS_DIR" "./designs"
        acceptsOverlay := acceptsOverlay.getD true
        socketPath, maxAttempts, maxDelay
        logLevel := String.ofList (Text.upper (valueOr environment "LOG_LEVEL" "INFO").toList)
        environment := valueOr environment "ENVIRONMENT" "development"
        rooted, attempts_pos }
    else throw .attempts
  else throw .socketPath

def isDevelopment (s : Settings) : Bool := s.environment == "development"

end Settings

end UiSurface
