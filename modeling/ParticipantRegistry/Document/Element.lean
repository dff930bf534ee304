import ParticipantRegistry.Document.Check
import ParticipantRegistry.Participant.Card
import ParticipantRegistry.Participant.Routing

/-!
# Elements of a document

The elements of a document are read one at a time. A service group element gives a group with its
endpoints and redirects; reading it asks once for the user that owns the group. A business card
element gives a card. An element that breaks the format, or that would give a record with a blank
text, is refused with a `RecordError`.
-/

namespace ParticipantRegistry.Document

open Checked

structure EndpointElement where
  documentType : Text
  process : Text
  transportProfile : Text
  endpointUrl : Text
  certificate : Option Text
  serviceDescription : Option Text
  technicalContactUrl : Option Text
  extension : Option Text
  deriving DecidableEq

structure RedirectElement where
  documentType : Text
  targetHref : Text
  subjectUniqueIdentifier : Option Text
  certificate : Option Text
  extension : Option Text
  deriving DecidableEq

structure GroupElement where
  participantId : Text
  ownerId : Text
  extension : Option Text
  endpoints : List EndpointElement
  redirects : List RedirectElement
  deriving DecidableEq

def endpointNames : List Text :=
  ["document_type", "process", "transport_profile", "endpoint_url", "certificate",
    "service_description", "technical_contact_url", "extension"]

def checkEndpointMembers (ms : Json.Members) : Checked EndpointElement :=
  EndpointElement.mk <$> required "document_type" trimmedText ms
    <*> required "process" trimmedText ms
    <*> required "transport_profile" trimmedText ms
    <*> required "endpoint_url" trimmedText ms
    <*> optional "certificate" none optionalText ms
    <*> optional "service_description" none optionalText ms
    <*> optional "technical_contact_url" none optionalText ms
    <*> optional "extension" none optionalText ms

def checkEndpoint : Json → Checked EndpointElement :=
  object .endpoint endpointNames checkEndpointMembers

def redirectNames : List Text :=
  ["document_type", "target_href", "subject_unique_identifier", "certificate", "extension"]

def checkRedirectMembers (ms : Json.Members) : Checked RedirectElement :=
  RedirectElement.mk <$> required "document_type" trimmedText ms
    <*> required "target_href" trimmedText ms
    <*> optional "subject_unique_identifier" none optionalText ms
    <*> optional "certificate" none optionalText ms
    <*> optional "extension" none optionalText ms

def checkRedirect : Json → Checked RedirectElement :=
  object .redirect redirectNames checkRedirectMembers

def groupNames : List Text :=
  ["participant_id", "owner_id", "extension", "endpoints", "redirects"]

def checkGroupMembers (endpoints : Checked (List EndpointElement))
    (redirects : Checked (List RedirectElement)) (ms : Json.Members) : Checked GroupElement :=
  GroupElement.mk <$> required "participant_id" trimmedText ms
    <*> required "owner_id" trimmedText ms
    <*> optional "extension" none optionalText ms
    <*> endpoints
    <*> redirects

def checkGroup : Json → Checked GroupElement :=
  object .serviceGroup groupNames fun ms =>
    checkGroupMembers (optional "endpoints" [] (array checkEndpoint) ms)
      (optional "redirects" [] (array checkRedirect) ms) ms

def identifierNames : List Text := ["scheme", "value"]

def checkIdentifierMembers (ms : Json.Members) : Checked BusinessIdentifier :=
  BusinessIdentifier.mk <$> required "scheme" trimmedText ms
    <*> required "value" trimmedText ms

def checkIdentifier : Json → Checked BusinessIdentifier :=
  object .businessIdentifier identifierNames checkIdentifierMembers

def entityNames : List Text :=
  ["name", "country_code", "geographical_information", "identifiers", "websites",
    "additional_information", "registration_date"]

/-- A free field of an entity, as a document may give it: a text or nothing. -/
def freeText (value : Json) : Checked Json :=
  (optionalText value).map Json.ofText?

def checkEntityMembers (identifiers : Checked (List BusinessIdentifier)) (ms : Json.Members) :
    Checked BusinessEntity :=
  BusinessEntity.mk <$> required "name" trimmedText ms
    <*> required "country_code" countryCode ms
    <*> optional "geographical_information" .null freeText ms
    <*> identifiers
    <*> optional "websites" [] (array plainText) ms
    <*> optional "additional_information" .null freeText ms
    <*> optional "registration_date" none optionalDate ms

def checkEntity : Json → Checked BusinessEntity :=
  object .businessEntity entityNames fun ms =>
    checkEntityMembers (optional "identifiers" [] (array checkIdentifier) ms) ms

def cardNames : List Text := ["participant_id", "entities"]

def checkCardMembers (entities : Checked (List BusinessEntity)) (ms : Json.Members) :
    Checked BusinessCard :=
  BusinessCard.mk <$> required "participant_id" trimmedText ms
    <*> entities

def checkCard : Json → Checked BusinessCard :=
  object .businessCard cardNames fun ms =>
    checkCardMembers (optional "entities" [] (array checkEntity) ms) ms

inductive RecordError where
  | invalid (kind : ElementKind) (problems : List Problem)
  | blank (field : BlankField)
  deriving DecidableEq

def RecordError.message : RecordError → Text
  | .invalid kind problems =>
    "Invalid " ++ kind.name ++ ": " ++ Text.ofNat problems.length ++ " validation error(s)"
  | .blank field => field.message

structure GroupRecord where
  group : ServiceGroup
  endpoints : List Endpoint
  redirects : List Redirect
  deriving DecidableEq

/-- A reading that may ask for users by id before it gives a record. -/
inductive Inquiry (α : Type) where
  | done (result : Except RecordError α)
  | askUser (id : Text) (next : User → Inquiry α)

/-- How raw elements are read: what was sighted on the way, and the record. -/
structure ElementReader where
  serviceGroup : Json → List Sighting × Inquiry GroupRecord
  businessCard : Json → List Sighting × Except RecordError BusinessCard

def EndpointElement.toEndpoint (e : EndpointElement) (participantId : Text) : Endpoint where
  participantId
  documentType := e.documentType
  process := e.process
  transportProfile := e.transportProfile
  endpointUrl := e.endpointUrl
  certificate := e.certificate
  serviceDescription := e.serviceDescription
  technicalContactUrl := e.technicalContactUrl
  extension := e.extension

def RedirectElement.toRedirect (r : RedirectElement) (participantId : Text) : Redirect where
  participantId
  documentType := r.documentType
  targetHref := r.targetHref
  subjectUniqueIdentifier := r.subjectUniqueIdentifier
  certificate := r.certificate
  extension := r.extension

def GroupElement.toRecord (element : GroupElement) (owner : User) : GroupRecord where
  group := ⟨element.participantId, owner.id, element.extension⟩
  endpoints := element.endpoints.map (·.toEndpoint element.participantId)
  redirects := element.redirects.map (·.toRedirect element.participantId)

def GroupRecord.check (record : GroupRecord) : Except BlankField Unit := do
  record.group.check
  record.endpoints.forM Endpoint.check
  record.redirects.forM Redirect.check

def readServiceGroup (element : Json) : List Sighting × Inquiry GroupRecord :=
  let checked := checkGroup element
  (checked.sightings,
    match checked.result with
    | .error problems => .done (.error (.invalid .serviceGroup problems))
    | .ok parsed =>
      .askUser parsed.ownerId fun owner =>
        let record := parsed.toRecord owner
        match record.check with
        | .ok () => .done (.ok record)
        | .error field => .done (.error (.blank field)))

def readBusinessCard (element : Json) : List Sighting × Except RecordError BusinessCard :=
  let checked := checkCard element
  (checked.sightings,
    match checked.result with
    | .error problems => .error (.invalid .businessCard problems)
    | .ok card =>
      match card.check with
      | .ok () => .ok card
      | .error field => .error (.blank field))

def elementReader : ElementReader := ⟨readServiceGroup, readBusinessCard⟩

/-- Answers every question of an inquiry from a directory of users; the ids asked for come first. -/
def Inquiry.run {α : Type} (users : Text → User) : Inquiry α → List Text × Except RecordError α
  | .done result => ([], result)
  | .askUser id next =>
    let (asked, result) := (next (users id)).run users
    (id :: asked, result)

end ParticipantRegistry.Document
