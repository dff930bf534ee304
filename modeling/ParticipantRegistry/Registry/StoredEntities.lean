import ParticipantRegistry.Calendar.IsoDate
import ParticipantRegistry.Json.Display
import ParticipantRegistry.Json.Members
import ParticipantRegistry.Json.Reader
import ParticipantRegistry.Json.Writer
import ParticipantRegistry.Participant.Draft

/-!
# Entities as stored text

The entities of a business card are stored as one JSON text: an array with an object per entity.
`StoredEntities.encode` writes it. `StoredEntities.decode` reads it leniently: a text that is no array
stands for no entities, items that are no objects are skipped, and values in place of texts are taken
by their plain text. Identifiers and websites may be given by anything that has parts: the items of
an array, the code points of a text, or the member names of an object.
-/

namespace ParticipantRegistry

inductive StoredEntityError where
  | json (error : Json.ReadError)
  | missing (name : Text)
  | noParts
  | tooFewParts (count : Nat)
  | tooManyParts
  | date (error : IsoDateError)
  | dateNotText
  deriving DecidableEq

def StoredEntityError.message : StoredEntityError → Text
  | .json error => error.message
  | .missing name => name.quoted
  | .noParts => "a value with parts is expected"
  | .tooFewParts count => "not enough values to unpack (expected 2, got " ++ Text.ofNat count ++ ")"
  | .tooManyParts => "too many values to unpack (expected 2)"
  | .date error => error.message
  | .dateNotText => "a date has to be a text"

namespace StoredEntities

def encodeDrafts (drafts : List Json.Members) : Text := Json.write .line (.array (drafts.map .object))

def encode (entities : List BusinessEntity) : Text :=
  encodeDrafts (entities.map BusinessEntity.draft)

def parts (value : Json) : Except StoredEntityError (List Json) :=
  match value.parts? with
  | some items => .ok items
  | none => .error .noParts

def decodeIdentifier (value : Json) : Except StoredEntityError BusinessIdentifier :=
  match value.parts? with
  | none => .error .noParts
  | some [scheme, value] => .ok ⟨scheme.display, value.display⟩
  | some (_ :: _ :: _ :: _) => .error .tooManyParts
  | some items => .error (.tooFewParts items.length)

def decodeDate (value : Json) : Except StoredEntityError (Option Date) :=
  if !value.isGiven then .ok none
  else
    match value with
    | .string t => ((IsoDate.read t).map some).mapError .date
    | _ => .error .dateNotText

def memberText (name : Text) (ms : Json.Members) : Except StoredEntityError Text :=
  match ms.lookup name with
  | some value => .ok value.display
  | none => .error (.missing name)

def memberOr (name : Text) (default : Json) (ms : Json.Members) : Json :=
  (ms.lookup name).getD default

def decodeEntity (ms : Json.Members) : Except StoredEntityError BusinessEntity := do
  let name ← memberText "name" ms
  let countryCode ← memberText "country_code" ms
  let identifiers ← (← parts (memberOr "identifiers" (.array []) ms)).mapM decodeIdentifier
  let websites ← parts (memberOr "websites" (.array []) ms)
  let registrationDate ← decodeDate (memberOr "registration_date" .null ms)
  return {
    name
    countryCode
    geographicalInformation := memberOr "geographical_information" .null ms
    identifiers
    websites := websites.map Json.display
    additionalInformation := memberOr "additional_information" .null ms
    registrationDate }

def objects : List Json → List Json.Members
  | [] => []
  | .object ms :: rest => ms :: objects rest
  | _ :: rest => objects rest

def decode (stored : Text) : Except StoredEntityError (List BusinessEntity) :=
  match Json.read stored with
  | .error error => .error (.json error)
  | .ok (.array items) => (objects items).mapM decodeEntity
  | .ok _ => .ok []

/-- Where nothing is stored there are no entities. -/
def decode? : Option Text → Except StoredEntityError (List BusinessEntity)
  | some stored => decode stored
  | none => .ok []

end StoredEntities

end ParticipantRegistry
