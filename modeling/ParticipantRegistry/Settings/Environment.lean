import ParticipantRegistry.Json.Display
import ParticipantRegistry.Text.Blank

/-!
# Environment variables

Settings come from environment variables. A variable with a blank value counts as not set. Switches
are read from a few words in either case.
-/

namespace ParticipantRegistry

abbrev Environment := List (Text × Text)

inductive ConfigurationError where
  | missing (names : List Text)
  | notASwitch (name value : Text)
  | noDefaultOwner
  | unknownDefaultOwner (id : Json)
  deriving DecidableEq

def ConfigurationError.message : ConfigurationError → Text
  | .missing names => "Missing configuration for: " ++ List.intercalate ", " (Text.sort names)
  | .notASwitch name value => "Invalid boolean value for " ++ name ++ ": " ++ value.quoted
  | .noDefaultOwner =>
    "No default owner given. Pass --default-owner or set SMPEXCHANGE_DEFAULT_OWNER."
  | .unknownDefaultOwner id => "Unknown default owner " ++ id.quoted

namespace Environment

def value? (env : Environment) (name : Text) : Option Text := env.lookup name

def given? (env : Environment) (name : Text) : Option Text := (env.value? name).filter (· ≠ [])

/-- The value of a variable that is set and not blank. -/
def filled? (env : Environment) (name : Text) : Option Text :=
  (env.value? name).filter fun value => !value.isBlank

def requireAll (env : Environment) (names : List Text) :
    Except ConfigurationError (List (Text × Text)) :=
  let missing := names.filter fun name => (env.filled? name).isNone
  if missing ≠ [] then .error (.missing missing)
  else .ok (names.map fun name => (name, (env.filled? name).getD []))

def requireOne (env : Environment) (name : Text) : Except ConfigurationError Text :=
  match env.filled? name with
  | some value => .ok value
  | none => .error (.missing [name])

def trimmed? (env : Environment) (name : Text) : Option Text := (env.filled? name).map Text.strip

def onWords : List Text := ["1", "true", "yes", "on"]

def offWords : List Text := ["0", "false", "no", "off"]

def readSwitch (name value : Text) : Except ConfigurationError Bool :=
  let word := value.strip.asciiLower
  if onWords.contains word then .ok true
  else if offWords.contains word then .ok false
  else .error (.notASwitch name value)

def switch? (env : Environment) (name : Text) : Except ConfigurationError (Option Bool) :=
  match env.trimmed? name with
  | some value => (readSwitch name value).map some
  | none => .ok none

def switch (env : Environment) (name : Text) (default : Bool) : Except ConfigurationError Bool :=
  return (← env.switch? name).getD default

end Environment

structure Policy where
  directoryIntegration : Bool := true
  overwriteExisting : Bool := false
  /-- The id of the default owner; `null` says that there is none. -/
  defaultOwnerId : Json := .null
  deriving DecidableEq

def Environment.policy (env : Environment) : Except ConfigurationError Policy := do
  let directoryIntegration ← env.switch "SMPEXCHANGE_DIRECTORY_INTEGRATION" true
  let overwriteExisting ← env.switch "SMPEXCHANGE_OVERWRITE_EXISTING" false
  return {
    directoryIntegration, overwriteExisting
    defaultOwnerId := Json.ofText? (env.trimmed? "SMPEXCHANGE_DEFAULT_OWNER") }

end ParticipantRegistry
