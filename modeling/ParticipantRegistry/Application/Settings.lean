import ParticipantRegistry.Application.Host
import ParticipantRegistry.Settings.View

/-!
# Settings by name

What the settings of a host say can be asked for by name, with arguments as JSON values, and is
answered as a JSON value. The name of a variable needs an encoded form.
-/

namespace ParticipantRegistry.Host

open Json (ofText? ofTexts)

def settled {α : Type} (result : Except ConfigurationError α) : Task Host α :=
  Task.ofExcept .configuration result

def unsuitable {α : Type} : Task Host α := throw (.call (.fault .unsuitable))

def textOf : Json → Task Host Text
  | .string t => return t
  | _ => unsuitable

def variableName (value : Json) : Task Host Text := do
  let name ← textOf value
  if !FileName.isEncodable name then throw (.file .notEncodable)
  return name

def requiredVariables (names : Json) : Task Host Json := do
  match names.parts? with
  | none => unsuitable
  | some names =>
    let names ← names.mapM variableName
    let values ← settled ((← Task.content).surroundings.environment.requireAll names)
    return Json.ofMembers (values.map fun v => (v.1, .string v.2))

def switchOr (name fallback : Json) : Task Host Json := do
  let name ← variableName name
  let switch ← settled ((← Task.content).surroundings.environment.switch? name)
  return (switch.map Json.bool).getD fallback

def readSwitch (name value : Json) : Task Host Json := do
  match value with
  | .string t => return .bool (← settled (Environment.readSwitch name.display t))
  | _ => throw (.call (.fault .notText))

def placesOf (d : DataDirectory) (filename : Json) (ensure : Bool) : Task Host Json := do
  let h ← Task.content
  let place ← Task.ofExcept .directory (d.place h.surroundings h.disk)
  if ensure then
    Task.setContent (h.setDisk (← Task.ofExcept .file (h.disk.makeDirectories place)))
  let filename ← if filename = .null then pure d.filename else textOf filename
  let path := { d with filename }.databasePath place
  let isDirectory ← Task.ofExcept .file ((← Task.content).disk.hasDirectory path.parent)
  return .array [.string (Path.ofPlace place).toText, .string path.toText, .bool isDirectory]

def directoryOf (path : Json) : Task Host DataDirectory :=
  return { directory := Path.read (← textOf path) }

def databaseAddressIn (path : Json) : Task Host Json := do
  let chosen ← if path = .null then pure none else some <$> directoryOf path
  let h ← Task.content
  let (address, disk) ← Task.ofExcept .directory (h.surroundings.databaseAddress chosen h.disk)
  Task.setContent (h.setDisk disk)
  return .string address

def setting (question : Text) (arguments : List Json) : Task Host Json := do
  let h ← Task.content
  let environment := h.surroundings.environment
  let argument (i : Nat) : Json := arguments[i]?.getD .null
  if question = "require_env_vars" then requiredVariables (argument 0)
  else if question = "require_env_var" then
    return .string (← settled (environment.requireOne (← variableName (argument 0))))
  else if question = "optional_env_var" then
    return ofText? (environment.trimmed? (← variableName (argument 0)))
  else if question = "env_flag" then switchOr (argument 0) (argument 1)
  else if question = "parse_flag" then readSwitch (argument 0) (argument 1)
  else if question = "exchange" then return (← settled environment.policy).toJson
  else if question = "storage" then
    let d ← Task.ofExcept .directory (h.surroundings.dataDirectory h.disk)
    return ofTexts [d.directory.toText, d.filename]
  else if question = "database" then databaseAddressIn (argument 0)
  else placesOf (← directoryOf (argument 0)) (argument 2) (argument 1).isGiven

end ParticipantRegistry.Host
