import ParticipantRegistry.Document.Element
import ParticipantRegistry.Participant.Draft

/-!
# Writing records into a document

Records are written in the form in which the format would read them: required texts trimmed, country
codes in capitals. A record that the format would not read is refused with its problems; the parts
of a record are looked at before the record itself, and the first part with problems decides.
Absent values are left out of the objects.
-/

namespace ParticipantRegistry

/-- An exported service group with its children, in the order in which they are written. -/
structure ExportedGroup where
  group : ServiceGroup
  endpoints : List Endpoint
  redirects : List Redirect
  deriving DecidableEq

structure ExportDocument where
  serviceGroups : List ExportedGroup
  businessCards : List BusinessCard
  deriving DecidableEq

def formatVersion : Text := "1.0"

namespace Document

structure GroupDraft where
  group : Json.Members
  endpoints : List Json.Members
  redirects : List Json.Members

structure Draft where
  serviceGroups : List GroupDraft
  businessCards : List Json.Members

end Document

def ExportedGroup.draft (g : ExportedGroup) : Document.GroupDraft :=
  ⟨g.group.draft, g.endpoints.map Endpoint.draft, g.redirects.map Redirect.draft⟩

def ExportDocument.draft (document : ExportDocument) : Document.Draft :=
  ⟨document.serviceGroups.map ExportedGroup.draft, document.businessCards.map BusinessCard.draft⟩

namespace Document

open Checked
open Json (ofText?)

abbrev Validation (α : Type) := Except (List Problem) α

def normalEndpoint (draft : Json.Members) : Validation EndpointElement :=
  (checkEndpointMembers draft).result

def normalRedirect (draft : Json.Members) : Validation RedirectElement :=
  (checkRedirectMembers draft).result

def normalGroup (draft : GroupDraft) : Validation GroupElement := do
  let endpoints ← draft.endpoints.mapM normalEndpoint
  let redirects ← draft.redirects.mapM normalRedirect
  (checkGroupMembers (valid endpoints) (valid redirects) draft.group).result

def identifierMembers : Json → Json.Members
  | .array [scheme, value] => [("scheme", scheme), ("value", value)]
  | _ => []

def normalIdentifier (draft : Json) : Validation BusinessIdentifier :=
  (checkIdentifierMembers (identifierMembers draft)).result

def normalEntity (draft : Json) : Validation BusinessEntity := do
  let ms := draft.members
  let identifiers ← (ms.items "identifiers").mapM normalIdentifier
  (checkEntityMembers (valid identifiers) ms).result

def normalCard (draft : Json.Members) : Validation BusinessCard := do
  let entities ← (draft.items "entities").mapM normalEntity
  (checkCardMembers (valid entities) draft).result

/-- An object without its absent members. -/
def presentMembers (ms : List (Text × Json)) : Json :=
  .object (ms.filter fun m => m.2 ≠ .null)

def EndpointElement.toJson (e : EndpointElement) : Json :=
  presentMembers
    [("document_type", .string e.documentType), ("process", .string e.process),
      ("transport_profile", .string e.transportProfile), ("endpoint_url", .string e.endpointUrl),
      ("certificate", ofText? e.certificate), ("service_description", ofText? e.serviceDescription),
      ("technical_contact_url", ofText? e.technicalContactUrl), ("extension", ofText? e.extension)]

def RedirectElement.toJson (r : RedirectElement) : Json :=
  presentMembers
    [("document_type", .string r.documentType), ("target_href", .string r.targetHref),
      ("subject_unique_identifier", ofText? r.subjectUniqueIdentifier),
      ("certificate", ofText? r.certificate), ("extension", ofText? r.extension)]

def GroupElement.toJson (g : GroupElement) : Json :=
  presentMembers
    [("participant_id", .string g.participantId), ("owner_id", .string g.ownerId),
      ("extension", ofText? g.extension), ("endpoints", .array (g.endpoints.map (·.toJson))),
      ("redirects", .array (g.redirects.map (·.toJson)))]

def identifierJson (i : BusinessIdentifier) : Json :=
  .object [("scheme", .string i.scheme), ("value", .string i.value)]

def entityJson (e : BusinessEntity) : Json :=
  presentMembers
    [("name", .string e.name), ("country_code", .string e.countryCode),
      ("geographical_information", e.geographicalInformation),
      ("identifiers", .array (e.identifiers.map identifierJson)),
      ("websites", .array (e.websites.map .string)),
      ("additional_information", e.additionalInformation),
      ("registration_date", ofText? (e.registrationDate.map Date.toText))]

def cardJson (card : BusinessCard) : Json :=
  .object [("participant_id", .string card.participantId),
    ("entities", .array (card.entities.map entityJson))]

def cardElement (card : BusinessCard) : Validation Json := (normalCard card.draft).map cardJson

def Draft.payload (draft : Draft) : Validation Json := do
  let groups ← draft.serviceGroups.mapM normalGroup
  let cards ← draft.businessCards.mapM normalCard
  return .object [("version", .string formatVersion),
    ("service_groups", .array (groups.map (·.toJson))),
    ("business_cards", .array (cards.map cardJson))]

def payload (document : ExportDocument) : Validation Json := document.draft.payload

end Document

end ParticipantRegistry
