import ParticipantRegistry.Exchange.View
import ParticipantRegistry.Json.Members

/-!
# Proposals

A proposal says by JSON values what an import shall do. Its groups and cards are staged one after the
other; for each of them it is told whether one of the same participant was staged before.
-/

namespace ParticipantRegistry

open Document (GroupDraft GroupRecord Draft)

/-- The fields of a group; one that names no owner gets the given one. -/
def withOwner (ownerId : Text) (value : Json) : Json :=
  let ms := value.members
  .object (if ms.has "owner_id" then ms else ms ++ [(("owner_id" : Text), .string ownerId)])

def ServiceGroup.ofJsonOr (ownerId : Text) (value : Json) : Except FormError ServiceGroup :=
  ServiceGroup.ofJson (withOwner ownerId value)

def Document.GroupDraft.ofJsonOr (ownerId : Text) (value : Json) : Except FormError GroupDraft := do
  let ms := value.members
  let values (kind : RecordKind) (value : Json) : Except FormError Json.Members :=
    return (← Form.read kind value.members).values
  return ⟨← values .serviceGroup (withOwner ownerId (ms.get "group")),
    ← (ms.items "endpoints").mapM (values .endpoint),
    ← (ms.items "redirects").mapM (values .redirect)⟩

def Document.Draft.ofJsonOr (ownerId : Text) (value : Json) : Except FormError Draft := do
  let ms := value.members
  let groups ← (ms.items "service_groups").mapM (GroupDraft.ofJsonOr ownerId)
  let cards ← (ms.items "business_cards").mapM BusinessCard.readDraft
  return ⟨groups, cards.map (·.values)⟩

structure Proposal where
  directoryIntegration : Bool := true
  groups : List StagedGroup := []
  businessCards : List BusinessCard := []
  groupDeletions : List ServiceGroup := []
  businessCardDeletions : List BusinessCard := []
  deriving DecidableEq

inductive ProposalError where
  | form (error : FormError)
  | decision (error : UnknownName)
  deriving DecidableEq

namespace Proposal

def readGroup (ownerId : Text) (value : Json) : Except ProposalError StagedGroup := do
  let ms := value.members
  let group ← (ServiceGroup.ofJsonOr ownerId (ms.get "group")).mapError .form
  let decision ←
    if ms.has "decision" then (StagingDecision.read (ms.get "decision")).mapError .decision
    else pure .create
  let endpoints ← ((ms.items "endpoints").mapM Endpoint.ofJson).mapError .form
  let redirects ← ((ms.items "redirects").mapM Redirect.ofJson).mapError .form
  return ⟨⟨group, endpoints, redirects⟩, decision⟩

def read (ownerId : Text) (value : Json) : Except ProposalError Proposal := do
  let ms := value.members
  let cards (name : Text) : Except ProposalError (List BusinessCard) :=
    ((ms.items name).mapM BusinessCard.ofJson).mapError .form
  return {
    directoryIntegration := ms.flag "directory_integration" true
    groups := ← (ms.items "groups").mapM (readGroup ownerId)
    businessCards := ← cards "business_cards"
    groupDeletions :=
      ← ((ms.items "group_deletions").mapM (ServiceGroup.ofJsonOr ownerId)).mapError .form
    businessCardDeletions := ← cards "business_card_deletions" }

def stageGroups : List StagedGroup → StagedBatch → List Json × StagedBatch
  | [], batch => ([], batch)
  | staged :: rest, batch =>
    let replaced := batch.hasGroup staged.participantId
    let (rows, batch) := stageGroups rest (batch.stageGroup staged)
    (.array [.string staged.participantId, .bool replaced, .bool staged.isOverwrite] :: rows, batch)

def stageCards : List BusinessCard → StagedBatch → List Json × StagedBatch
  | [], batch => ([], batch)
  | card :: rest, batch =>
    let replaced := batch.hasBusinessCard card.participantId
    let (rows, batch) := stageCards rest (batch.stageBusinessCard card)
    (.array [.string card.participantId, .bool replaced] :: rows, batch)

def stage (p : Proposal) : Json × StagedBatch :=
  let batch : StagedBatch := { directoryIntegration := p.directoryIntegration }
  let (groups, batch) := stageGroups p.groups batch
  let (cards, batch) := stageCards p.businessCards batch
  let batch := p.groupDeletions.foldl (fun batch group => batch.deleteGroup group) batch
  let batch := p.businessCardDeletions.foldl (fun batch card => batch.deleteBusinessCard card) batch
  (.array (groups ++ cards), batch)

end Proposal

end ParticipantRegistry
