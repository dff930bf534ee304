import ParticipantRegistry.Calendar.Date
import ParticipantRegistry.Json.Alike
import ParticipantRegistry.Participant.Required

/-!
# Business cards

A business card describes the entities behind a participant, in an order that counts. The two free
fields of an entity, its geographical and its additional information, hold any JSON value; `null`
says that there is none.
-/

namespace ParticipantRegistry

structure BusinessIdentifier where
  scheme : Text
  value : Text
  deriving DecidableEq

structure BusinessEntity where
  name : Text
  countryCode : Text
  geographicalInformation : Json
  identifiers : List BusinessIdentifier
  websites : List Text
  additionalInformation : Json
  registrationDate : Option Date
  deriving DecidableEq

structure BusinessCard where
  participantId : Text
  entities : List BusinessEntity
  deriving DecidableEq

instance : Keyed BusinessCard Text := ⟨BusinessCard.participantId⟩

def BusinessCard.check (c : BusinessCard) : Except BlankField Unit :=
  requireTexts [("participant_id", c.participantId)]

/-- Whether two entities differ at most in how their free fields are written. -/
def BusinessEntity.alike (a b : BusinessEntity) : Bool :=
  a.geographicalInformation.alike b.geographicalInformation &&
    a.additionalInformation.alike b.additionalInformation &&
    decide
      ({ a with
        geographicalInformation := b.geographicalInformation
        additionalInformation := b.additionalInformation } = b)

def BusinessCard.holdsAlike (card : BusinessCard) (entities : List BusinessEntity) : Bool :=
  card.entities.length == entities.length &&
    (card.entities.zip entities).all fun pair => pair.1.alike pair.2

end ParticipantRegistry
