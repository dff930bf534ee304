import ParticipantRegistry.Participant.Required

/-!
# Routing records

A service group stands for one participant and belongs to a user. It owns endpoints, each of which
declares where documents of one type are taken for one process over one transport, and redirects,
each of which hands one document type over to another registry.
-/

namespace ParticipantRegistry

structure User where
  id : Text
  displayName : Text
  deriving DecidableEq

structure ServiceGroup where
  participantId : Text
  ownerId : Text
  extension : Option Text
  deriving DecidableEq

structure Endpoint where
  participantId : Text
  documentType : Text
  process : Text
  transportProfile : Text
  endpointUrl : Text
  certificate : Option Text
  serviceDescription : Option Text
  technicalContactUrl : Option Text
  extension : Option Text
  deriving DecidableEq

structure EndpointKey where
  participantId : Text
  documentType : Text
  process : Text
  transportProfile : Text
  deriving DecidableEq

structure Redirect where
  participantId : Text
  documentType : Text
  targetHref : Text
  subjectUniqueIdentifier : Option Text
  certificate : Option Text
  extension : Option Text
  deriving DecidableEq

structure RedirectKey where
  participantId : Text
  documentType : Text
  deriving DecidableEq

instance : Keyed User Text := ⟨User.id⟩

instance : Keyed ServiceGroup Text := ⟨ServiceGroup.participantId⟩

instance : Keyed Endpoint EndpointKey :=
  ⟨fun e => ⟨e.participantId, e.documentType, e.process, e.transportProfile⟩⟩

instance : Keyed Redirect RedirectKey := ⟨fun r => ⟨r.participantId, r.documentType⟩⟩

def EndpointKey.parts (k : EndpointKey) : List Text :=
  [k.participantId, k.documentType, k.process, k.transportProfile]

def RedirectKey.parts (k : RedirectKey) : List Text := [k.participantId, k.documentType]

namespace ServiceGroup

def check (g : ServiceGroup) : Except BlankField Unit :=
  requireTexts [("participant_id", g.participantId), ("owner_id", g.ownerId)]

def le (a b : ServiceGroup) : Bool := Text.le a.participantId b.participantId

end ServiceGroup

def Text.leAll : List Text → List Text → Bool
  | [], _ => true
  | _ :: _, [] => false
  | a :: as, b :: bs => if a = b then leAll as bs else a.le b

namespace Endpoint

def check (e : Endpoint) : Except BlankField Unit :=
  requireTexts [("participant_id", e.participantId), ("document_type", e.documentType),
    ("process", e.process), ("transport_profile", e.transportProfile),
    ("endpoint_url", e.endpointUrl)]

/-- What the endpoints of one group are listed by. -/
def sortKey (e : Endpoint) : List Text := [e.documentType, e.process, e.transportProfile]

def le (a b : Endpoint) : Bool := Text.leAll a.sortKey b.sortKey

end Endpoint

namespace Redirect

def check (r : Redirect) : Except BlankField Unit :=
  requireTexts [("participant_id", r.participantId), ("document_type", r.documentType),
    ("target_href", r.targetHref)]

def le (a b : Redirect) : Bool := Text.le a.documentType b.documentType

end Redirect

end ParticipantRegistry
