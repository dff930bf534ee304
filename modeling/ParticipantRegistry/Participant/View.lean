import ParticipantRegistry.Participant.Draft
import ParticipantRegistry.Participant.Form

/-!
# Records as JSON values

A record is shown as an object of all its fields, where `null` stands for one that is absent. It is
read from such an object through its form; the identifiers of an entity are then given by anything of
two parts, its websites by anything that has parts, and its date by a text that may be empty.
-/

namespace ParticipantRegistry

def User.toJson (u : User) : Json :=
  .object [("id", .string u.id), ("display_name", .string u.displayName)]

namespace ServiceGroup

def toJson (g : ServiceGroup) : Json := .object g.draft

def ofForm (form : Form) : Except FormError ServiceGroup := do
  return ⟨← form.text "participant_id", ← form.text "owner_id", ← form.text? "extension"⟩

def ofJson (value : Json) : Except FormError ServiceGroup := do
  ofForm (← Form.read .serviceGroup value.members)

end ServiceGroup

namespace Endpoint

def toJson (e : Endpoint) : Json := .object e.draft

def ofJson (value : Json) : Except FormError Endpoint := do
  let form ← Form.read .endpoint value.members
  return {
    participantId := ← form.text "participant_id"
    documentType := ← form.text "document_type"
    process := ← form.text "process"
    transportProfile := ← form.text "transport_profile"
    endpointUrl := ← form.text "endpoint_url"
    certificate := ← form.text? "certificate"
    serviceDescription := ← form.text? "service_description"
    technicalContactUrl := ← form.text? "technical_contact_url"
    extension := ← form.text? "extension" }

end Endpoint

namespace Redirect

def toJson (r : Redirect) : Json := .object r.draft

def ofJson (value : Json) : Except FormError Redirect := do
  let form ← Form.read .redirect value.members
  return {
    participantId := ← form.text "participant_id"
    documentType := ← form.text "document_type"
    targetHref := ← form.text "target_href"
    subjectUniqueIdentifier := ← form.text? "subject_unique_identifier"
    certificate := ← form.text? "certificate"
    extension := ← form.text? "extension" }

end Redirect

namespace BusinessIdentifier

def toJson (i : BusinessIdentifier) : Json :=
  .object [("scheme", .string i.scheme), ("value", .string i.value)]

def readPair (value : Json) : Except FormError Json :=
  match value.parts? with
  | some [scheme, value] => .ok (.array [scheme, value])
  | _ => .error (.unsuitable "identifiers")

def ofPair : Json → Except FormError BusinessIdentifier
  | .array [.string scheme, .string value] => .ok ⟨scheme, value⟩
  | _ => .error (.notText "identifiers")

end BusinessIdentifier

namespace BusinessEntity

def toJson (e : BusinessEntity) : Json :=
  .object (e.fields (e.identifiers.map BusinessIdentifier.toJson))

/-- A value that does not count as given gives no date. -/
def readDate (value : Json) : Except FormError (Option Date) :=
  if !value.isGiven then .ok none
  else
    match value with
    | .string t => ((IsoDate.read t).map some).mapError .date
    | _ => .error (.unsuitable "registration_date")

def readDraft (value : Json) : Except FormError (Form × Option Date) := do
  let form ← Form.read .businessEntity value.members
  let identifiers ← (← form.parts "identifiers").mapM BusinessIdentifier.readPair
  let websites ← form.parts "websites"
  let date ← readDate (form.value "registration_date")
  let form :=
    (form.set "identifiers" (.array identifiers)).set "websites" (.array websites)
  return (form.set "registration_date" (.ofText? (date.map Date.toText)), date)

def readWebsite : Json → Except FormError Text
  | .string t => .ok t
  | _ => .error (.notText "websites")

def ofJson (value : Json) : Except FormError BusinessEntity := do
  let (form, registrationDate) ← readDraft value
  return {
    name := ← form.text "name"
    countryCode := ← form.text "country_code"
    geographicalInformation := form.value "geographical_information"
    identifiers := ← (← form.parts "identifiers").mapM BusinessIdentifier.ofPair
    websites := ← (← form.parts "websites").mapM readWebsite
    additionalInformation := form.value "additional_information"
    registrationDate }

end BusinessEntity

namespace BusinessCard

def toJson (card : BusinessCard) : Json :=
  .object [("participant_id", .string card.participantId),
    ("entities", .array (card.entities.map (·.toJson)))]

def readForm {α : Type} (readEntity : Json → Except FormError α) (value : Json) :
    Except FormError (Form × List α) := do
  let given := value.members
  let entities ←
    match (if given.has "entities" then given.get "entities" else .array []).parts? with
    | some values => values.mapM readEntity
    | none => .error (.unsuitable "entities")
  return (← Form.read .businessCard given, entities)

def readDraft (value : Json) : Except FormError Form := do
  let (form, drafts) ← readForm BusinessEntity.readDraft value
  return form.set "entities" (.array (drafts.map fun draft => .object draft.1.values))

def ofJson (value : Json) : Except FormError BusinessCard := do
  let (form, entities) ← readForm BusinessEntity.ofJson value
  return ⟨← form.text "participant_id", entities⟩

end BusinessCard

end ParticipantRegistry
