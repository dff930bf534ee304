import ParticipantRegistry.Document.File
import ParticipantRegistry.Exchange.Commit
import ParticipantRegistry.Participant.View

/-!
# Exchanged values as JSON values

Batches, staged batches, documents and reports are shown as objects of their parts; a table is shown
as an array of keys with their values.
-/

namespace ParticipantRegistry

open Document (GroupRecord)
open Json (ofTexts)

namespace ServiceGroup

/-- A group with its children, and what else is told of it. -/
def withChildren (group : ServiceGroup) (told : Json.Members) (endpoints : List Endpoint)
    (redirects : List Redirect) : Json :=
  .object ([(("group" : Text), group.toJson)] ++ told ++
    [(("endpoints" : Text), .array (endpoints.map (·.toJson))),
      (("redirects" : Text), .array (redirects.map (·.toJson)))])

end ServiceGroup

def Document.GroupRecord.toJson (r : GroupRecord) : Json :=
  r.group.withChildren [] r.endpoints r.redirects

def ParsedBatch.toJson (batch : ParsedBatch) : Json :=
  .object [("service_groups", .array batch.serviceGroups),
    ("business_cards", .array batch.businessCards)]

def ExportedGroup.toJson (g : ExportedGroup) : Json :=
  g.group.withChildren [] g.endpoints g.redirects

def ExportDocument.toJson (d : ExportDocument) : Json :=
  .object [("service_groups", .array (d.serviceGroups.map (·.toJson))),
    ("business_cards", .array (d.businessCards.map (·.toJson))), ("version", .string formatVersion)]

def StagedGroup.toJson (staged : StagedGroup) : Json :=
  staged.record.group.withChildren [("decision", .string staged.decision.name)]
    staged.record.endpoints staged.record.redirects

def tableJson {α : Type} [Keyed α Text] (toJson : α → Json) (rows : List α) : Json :=
  .array (rows.map fun row => .array [.string (key row), toJson row])

def StagedBatch.toJson (batch : StagedBatch) : Json :=
  .object [("directory_integration", .bool batch.directoryIntegration),
    ("is_empty", .bool batch.isEmpty), ("groups", tableJson StagedGroup.toJson batch.groups),
    ("group_deletions", tableJson ServiceGroup.toJson batch.groupDeletions),
    ("business_cards", tableJson BusinessCard.toJson batch.businessCards),
    ("business_card_deletions", tableJson BusinessCard.toJson batch.businessCardDeletions)]

def createdJson (created : List (Text × ServiceGroup)) : Json :=
  .array (created.map fun c => .array [.string c.1, c.2.toJson])

def CommitReport.toJson (r : CommitReport) : Json :=
  .object [("deleted_groups", ofTexts (Text.sort r.deletedGroups)),
    ("created_groups", createdJson r.createdGroups),
    ("failed_groups", ofTexts (Text.sort r.failedGroups)),
    ("merged_endpoints", .ofNat r.mergedEndpoints),
    ("upserted_redirects", .ofNat r.upsertedRedirects),
    ("deleted_business_cards", .ofNat r.deletedBusinessCards),
    ("created_business_cards", .ofNat r.createdBusinessCards),
    ("retracted_business_cards", ofTexts r.retractedBusinessCards)]

def ActionRecord.toJson (causeJson : Cause → Json) (r : ActionRecord) : Json :=
  .object [("severity", .string r.severity.name), ("key", r.key),
    ("message", r.note.shown),
    ("flags", .array [.bool r.isError, .bool r.hasKey, .bool r.hasCause]),
    ("cause", (r.cause.map causeJson).getD .null)]

end ParticipantRegistry
