import ParticipantRegistry.Exchange.Run

/-!
# Committing a staged batch

A commit makes its registry calls in five phases: it deletes the groups that are overwritten, creates
all staged groups, stores the endpoints and redirects of the groups that were created, deletes the
business cards that are overwritten, and stores the cards, but not those of groups that were not
created. A call that fails is recorded and everything else goes on.
-/

namespace ParticipantRegistry

structure CommitReport where
  deletedGroups : List Text
  createdGroups : List (Text × ServiceGroup)
  failedGroups : List Text
  mergedEndpoints : Nat
  upsertedRedirects : Nat
  deletedBusinessCards : Nat
  createdBusinessCards : Nat
  retractedBusinessCards : List Text
  deriving DecidableEq

def CommitReport.counts (report : CommitReport) : CommitCounts where
  deleted := report.deletedGroups.length
  created := report.createdGroups.length
  failed := report.failedGroups.length
  endpoints := report.mergedEndpoints
  redirects := report.upsertedRedirects
  businessCards := report.createdBusinessCards

def retractCards (failedGroups : List Text) (cards : List BusinessCard) : List BusinessCard :=
  cards.filter fun card => !failedGroups.contains card.participantId

namespace Run

variable {σ : Type} [Registry σ]

/-- Performs a mutation and records what came of it under the given key; tells whether the registry
was changed. -/
def mutate (participantId : Text) (mutation : Mutation) : Run σ Bool := do
  match ← attempt mutation.perform with
  | .ok true =>
    record (some participantId) (.succeeded mutation)
    return true
  | .ok false =>
    record (some participantId) (.failed mutation)
    return false
  | .error e =>
    record (some participantId) (.failed mutation) (some (.storage e))
    return false

def count {α : Type} (step : α → Run σ Bool) : List α → Run σ Nat
  | [] => return 0
  | a :: as => do
    let changed ← step a
    let rest ← count step as
    return changed.toNat + rest

def deleteGroups : List ServiceGroup → Run σ (List Text)
  | [] => return []
  | group :: groups => do
    let deleted ← mutate group.participantId (.deleteGroup group.participantId false)
    let rest ← deleteGroups groups
    return if deleted then group.participantId :: rest else rest

/-- Creates groups. Only those that are not overwritten are registered. The created groups and the
keys of the others are returned. -/
def createGroups : List StagedGroup → Run σ (List (Text × ServiceGroup) × List Text)
  | [] => return ([], [])
  | staged :: rest => do
    let participantId := staged.participantId
    let register := !staged.isOverwrite
    let mutation := Mutation.createGroup staged.record.group register
    match ← attempt (Registry.createGroup staged.record.group register) with
    | .ok group =>
      record (some participantId) (.succeeded mutation)
      let (created, failed) ← createGroups rest
      return ((participantId, group) :: created, failed)
    | .error e =>
      record (some participantId) (.failed mutation) (some (.storage e))
      let (created, failed) ← createGroups rest
      return (created, participantId :: failed)

def createChildren (created : List Text) : List StagedGroup → Run σ (Nat × Nat)
  | [] => return (0, 0)
  | staged :: rest => do
    if created.contains staged.participantId then
      let endpoints ←
        count (fun e => mutate staged.participantId (.mergeEndpoint e)) staged.record.endpoints
      let redirects ←
        count (fun r => mutate staged.participantId (.upsertRedirect r)) staged.record.redirects
      let (moreEndpoints, moreRedirects) ← createChildren created rest
      return (endpoints + moreEndpoints, redirects + moreRedirects)
    else createChildren created rest

/-- Deletes a card that will be created again. If its group was deleted the card is gone already. -/
def deleteCard (deletedGroups : List Text) (card : BusinessCard) : Run σ Bool := do
  let participantId := card.participantId
  let mutation := Mutation.deleteBusinessCard card
  match ← attempt mutation.perform with
  | .ok true =>
    record (some participantId) (.succeeded mutation)
    return true
  | .ok false =>
    let gone := deletedGroups.contains participantId
    record (some participantId) (if gone then .cardAlreadyDeleted else .failed mutation)
    return false
  | .error e =>
    record (some participantId) (.failed mutation) (some (.storage e))
    return false

def deleteCards (deletedGroups : List Text) (cards : List BusinessCard) : Run σ Nat :=
  count (deleteCard deletedGroups) cards

def createCards (cards : List BusinessCard) : Run σ Nat :=
  count (fun card => mutate card.participantId (.upsertBusinessCard card)) cards

def commit (staged : StagedBatch) : Run σ CommitReport := do
  let deletedGroups ← deleteGroups staged.groupDeletions
  let (createdGroups, failedGroups) ← createGroups staged.groups
  let (mergedEndpoints, upsertedRedirects) ←
    createChildren (createdGroups.map (·.1)) staged.groups
  let cards := retractCards failedGroups staged.businessCards
  let retractedBusinessCards :=
    (staged.businessCards.filter fun card => failedGroups.contains card.participantId).map
      (·.participantId)
  retractedBusinessCards.forM fun participantId => record (some participantId) .cardRetracted
  let deletedBusinessCards ← deleteCards deletedGroups staged.businessCardDeletions
  let createdBusinessCards ← createCards cards
  let report : CommitReport :=
    { deletedGroups, createdGroups, failedGroups, mergedEndpoints, upsertedRedirects,
      deletedBusinessCards, createdBusinessCards, retractedBusinessCards }
  emit (.committed report.counts)
  return report

end Run

end ParticipantRegistry
