import ParticipantRegistry.Document.File
import ParticipantRegistry.Exchange.Run

/-!
# Reading a batch

The elements of a batch are read one at a time into a staged batch: first the groups, then the
business cards if the registry takes them. An element is not staged if it cannot be read, if the
registry has its record already and nothing is to be overwritten, or, for a card, if no group for it
is stored or staged. Nothing is written here; the registry is only asked for users.

`stageRecord` and `stageCard` decide on a record that was read; they say what is noted about it.
-/

namespace ParticipantRegistry

open Document (ElementReader GroupRecord Inquiry RecordError)

/-- The policy of an import and what the registry holds before it. -/
structure ImportRequest where
  defaultOwner : User
  overwriteExisting : Bool := false
  existingGroupKeys : List Text := []
  existingBusinessCardKeys : List Text := []
  deriving DecidableEq

namespace ImportRequest

def hasGroup (participantId : Text) (request : ImportRequest) : Bool :=
  request.existingGroupKeys.contains participantId

def hasBusinessCard (participantId : Text) (request : ImportRequest) : Bool :=
  request.existingBusinessCardKeys.contains participantId

end ImportRequest

def stageRecord (request : ImportRequest) (index : Nat) (record : GroupRecord)
    (batch : StagedBatch) : StagedBatch × List Note :=
  let group := record.group
  let stored := request.hasGroup group.participantId
  if stored && !request.overwriteExisting then (batch, [.groupIgnored])
  else
    let repeated := if batch.hasGroup group.participantId then [Note.groupRepeated index] else []
    let staged := batch.stageGroup ⟨record, if stored then .overwrite else .create⟩
    (if stored then staged.deleteGroup group else staged,
      repeated ++ [.groupStaged stored, .endpointsRead record.endpoints.length,
        .redirectsRead record.redirects.length])

def stageCard (request : ImportRequest) (index : Nat) (card : BusinessCard)
    (batch : StagedBatch) : StagedBatch × List Note :=
  let participantId := card.participantId
  if !request.hasGroup participantId && !batch.hasGroup participantId then
    (batch, [.cardWithoutGroup index])
  else
    let stored := request.hasBusinessCard participantId
    if stored && !request.overwriteExisting then (batch, [.cardIgnored])
    else
      let repeated := if batch.hasBusinessCard participantId then [Note.cardRepeated] else []
      let staged := batch.stageBusinessCard card
      (if stored then staged.deleteBusinessCard card else staged,
        repeated ++ [.cardStaged stored])

namespace Run

variable {σ : Type}

/-- Answers an inquiry from the registry. Users that it does not know are replaced by the default
owner, and their ids are listed. -/
def resolve {α : Type} [Registry σ] (defaultOwner : User) :
    Inquiry α → Run σ (Except RecordError α × List Text)
  | .done result => return (result, [])
  | .askUser id next => do
    match ← call (Registry.lookupUser id) with
    | some user => resolve defaultOwner (next user)
    | none =>
      let (result, unresolved) ← resolve defaultOwner (next defaultOwner)
      return (result, id :: unresolved)

def emitSightings (sightings : List Document.Sighting) : Run σ Unit :=
  sightings.forM fun s => emit (.sighted s)

def recordAll (key : Text) (notes : List Note) : Run σ Unit :=
  notes.forM fun note => record (some key) note

def readGroup [Registry σ] (reader : ElementReader) (request : ImportRequest)
    (batch : StagedBatch) (element : Json × Nat) : Run σ StagedBatch := do
  let (value, index) := element
  let (sightings, inquiry) := reader.serviceGroup value
  emitSightings sightings
  match ← resolve request.defaultOwner inquiry with
  | (.error e, _) =>
    record none (.groupUnreadable index) (some (.record e))
    return batch
  | (.ok read, unresolved) =>
    let participantId := read.group.participantId
    recordAll participantId (unresolved.map fun id => .ownerReplaced id request.defaultOwner.id)
    let (batch, notes) := stageRecord request index read batch
    recordAll participantId notes
    return batch

def readCard (reader : ElementReader) (request : ImportRequest) (batch : StagedBatch)
    (element : Json × Nat) : Run σ StagedBatch := do
  let (value, index) := element
  let (sightings, result) := reader.businessCard value
  emitSightings sightings
  match result with
  | .error e =>
    record none (.cardUnreadable index) (some (.record e))
    return batch
  | .ok card =>
    let (batch, notes) := stageCard request index card batch
    recordAll card.participantId notes
    return batch

/-- Reads all groups and then, if the registry takes cards, all business cards of a batch. -/
def readBatch [Registry σ] (reader : ElementReader) (request : ImportRequest)
    (batch : ParsedBatch) : Run σ StagedBatch := do
  let directoryIntegration := Registry.directoryIntegration (← get).registry
  let staged : StagedBatch := { directoryIntegration }
  let staged ← batch.serviceGroups.zipIdx.foldlM (readGroup reader request) staged
  let staged ←
    if directoryIntegration then
      batch.businessCards.zipIdx.foldlM (readCard reader request) staged
    else pure staged
  emit (.staged staged.counts)
  return staged

end Run

end ParticipantRegistry
