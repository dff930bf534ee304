import ParticipantRegistry.Participant.Form
import ParticipantRegistry.Settings.Environment
import ParticipantRegistry.Settings.Printing

/-!
# Settings as JSON values

A policy is shown as an object and read from one, where settings that are left out have their
defaults.
-/

namespace ParticipantRegistry

namespace Policy

def toJson (p : Policy) : Json :=
  .object [("directory_integration", .bool p.directoryIntegration),
    ("overwrite_existing", .bool p.overwriteExisting),
    ("default_owner_id", p.defaultOwnerId)]

def ofJson (value : Json) : Except FormError Policy := do
  let ms := value.members
  let known : List Text := ["directory_integration", "overwrite_existing", "default_owner_id"]
  if !value.isObject || !(Json.names ms).all known.contains then throw .otherFields
  return {
    directoryIntegration := ms.flag "directory_integration" true
    overwriteExisting := ms.flag "overwrite_existing" false
    defaultOwnerId := ms.get "default_owner_id" }

end Policy

def Printing.toJson (p : Printing) : Json :=
  .array [p.level, .ofNat 1, .string p.pattern, .string p.timePattern]

end ParticipantRegistry
