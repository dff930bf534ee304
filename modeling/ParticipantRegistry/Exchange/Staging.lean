import ParticipantRegistry.Document.Element
import ParticipantRegistry.Registry.Basic

/-!
# Staged batches

A staged batch is what an import has decided to delete, create or overwrite. Its lists are tables by
participant. A group that is staged again takes the place of the earlier one; a business card that is
staged again moves to the end.
-/

namespace ParticipantRegistry

open Document (GroupRecord)

inductive StagingDecision where
  | create
  | overwrite
  deriving DecidableEq

namespace StagingDecision

def name : StagingDecision → Text
  | .create => "import"
  | .overwrite => "overwrite"

def read (value : Json) : Except UnknownName StagingDecision :=
  UnknownName.read "StagingDecision" [create, overwrite] name value

end StagingDecision

/-- A group to be created with its children, in place of a stored one or for the first time. -/
structure StagedGroup where
  record : GroupRecord
  decision : StagingDecision
  deriving DecidableEq

namespace StagedGroup

def participantId (staged : StagedGroup) : Text := staged.record.group.participantId

def isOverwrite (staged : StagedGroup) : Bool := staged.decision = .overwrite

end StagedGroup

instance : Keyed StagedGroup Text := ⟨StagedGroup.participantId⟩

structure StagedBatch where
  directoryIntegration : Bool := true
  groups : List StagedGroup := []
  groupDeletions : List ServiceGroup := []
  businessCards : List BusinessCard := []
  businessCardDeletions : List BusinessCard := []
  deriving DecidableEq

namespace StagedBatch

def isEmpty (batch : StagedBatch) : Bool := batch.groups.isEmpty && batch.businessCards.isEmpty

def hasGroup (participantId : Text) (batch : StagedBatch) : Bool :=
  Table.hasKey participantId batch.groups

def hasBusinessCard (participantId : Text) (batch : StagedBatch) : Bool :=
  Table.hasKey participantId batch.businessCards

def stageGroup (staged : StagedGroup) (batch : StagedBatch) : StagedBatch :=
  { batch with groups := Table.put staged batch.groups }

def stageBusinessCard (card : BusinessCard) (batch : StagedBatch) : StagedBatch :=
  { batch with businessCards := Table.putLast card batch.businessCards }

def deleteGroup (group : ServiceGroup) (batch : StagedBatch) : StagedBatch :=
  { batch with groupDeletions := Table.put group batch.groupDeletions }

def deleteBusinessCard (card : BusinessCard) (batch : StagedBatch) : StagedBatch :=
  { batch with businessCardDeletions := Table.put card batch.businessCardDeletions }

end StagedBatch

end ParticipantRegistry
