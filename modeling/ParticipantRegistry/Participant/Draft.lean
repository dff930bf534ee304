import ParticipantRegistry.Json.Members
import ParticipantRegistry.Participant.Card
import ParticipantRegistry.Participant.Routing

/-!
# Drafts

The draft of a record is the list of its fields by name. A draft may hold values of any type, so it
can also stand for something that is not yet known to be a record. An identifier is the array of its
scheme and value, and a date its text.
-/

namespace ParticipantRegistry

open Json (ofText? ofTexts)

def ServiceGroup.draft (g : ServiceGroup) : Json.Members :=
  [("participant_id", .string g.participantId), ("owner_id", .string g.ownerId),
    ("extension", ofText? g.extension)]

def Endpoint.draft (e : Endpoint) : Json.Members :=
  [("participant_id", .string e.participantId), ("document_type", .string e.documentType),
    ("process", .string e.process), ("transport_profile", .string e.transportProfile),
    ("endpoint_url", .string e.endpointUrl), ("certificate", ofText? e.certificate),
    ("service_description", ofText? e.serviceDescription),
    ("technical_contact_url", ofText? e.technicalContactUrl), ("extension", ofText? e.extension)]

def Redirect.draft (r : Redirect) : Json.Members :=
  [("participant_id", .string r.participantId), ("document_type", .string r.documentType),
    ("target_href", .string r.targetHref),
    ("subject_unique_identifier", ofText? r.subjectUniqueIdentifier),
    ("certificate", ofText? r.certificate), ("extension", ofText? r.extension)]

def BusinessEntity.fields (identifiers : List Json) (e : BusinessEntity) : Json.Members :=
  [("name", .string e.name), ("country_code", .string e.countryCode),
    ("geographical_information", e.geographicalInformation), ("identifiers", .array identifiers),
    ("websites", ofTexts e.websites), ("additional_information", e.additionalInformation),
    ("registration_date", ofText? (e.registrationDate.map Date.toText))]

def BusinessIdentifier.pair (i : BusinessIdentifier) : Json := ofTexts [i.scheme, i.value]

def BusinessEntity.draft (e : BusinessEntity) : Json.Members :=
  e.fields (e.identifiers.map BusinessIdentifier.pair)

def BusinessCard.draft (card : BusinessCard) : Json.Members :=
  [("participant_id", .string card.participantId),
    ("entities", .array (card.entities.map fun e => .object e.draft))]

end ParticipantRegistry
