import ParticipantRegistry.Application.Host
import ParticipantRegistry.Exchange.Export
import ParticipantRegistry.Exchange.Import

/-!
# Exchanging files

The tasks of the application: importing a document file into the registry, exporting the registry to
one, and creating a user.
-/

namespace ParticipantRegistry

/-- What an exchange may settle in place of the environment. -/
structure ExchangeOptions where
  overwriteExisting : Option Bool := none
  /-- The id of the default owner; a value that counts as not given leaves it to the policy. -/
  defaultOwnerId : Json := .null
  policy : Option Policy := none
  directoryIntegration : Option Bool := none

namespace Host

def importBatch (batch : ParsedBatch) (ownerId : Json) (overwriteExisting : Bool) :
    Task Session ActionLog := do
  match ← Task.call (Session.userBy ownerId) with
  | none => throw (.configuration (.unknownDefaultOwner ownerId))
  | some defaultOwner =>
    let existingGroupKeys ← Task.call Registry.serviceGroupKeys
    let existingBusinessCardKeys ← Task.call Registry.businessCardKeys
    let request : ImportRequest :=
      { defaultOwner, overwriteExisting, existingGroupKeys, existingBusinessCardKeys }
    let ((), log) ←
      Task.exchange (ActionLog.named .null)
        (Run.importBatch Document.elementReader request batch)
    return log

def importFile (path : Text) (options : ExchangeOptions) : Task Host ActionLog := do
  let policy ← policy options.policy
  let overwriteExisting := options.overwriteExisting.getD policy.overwriteExisting
  let given := options.defaultOwnerId
  let ownerId := if given.isGiven then given else policy.defaultOwnerId
  if ownerId = .null then throw (.configuration .noDefaultOwner)
  let batch ← loadDocument (Path.read path)
  let log ←
    withUnit options.directoryIntegration policy (importBatch batch ownerId overwriteExisting)
  Task.tell (.importDone path log.records.length log.hasError)
  return log

/-- Exports the registry of a session. Cards are exported only if the registry takes cards. -/
def exportRegistry (withCards : Bool) : Task Session ExportDocument := do
  let takesCards := Registry.directoryIntegration (← Task.content)
  if withCards && !takesCards then Task.tell .cardsSkipped
  let groups ← Task.call Registry.serviceGroups
  let (document, _) ←
    Task.exchange ⟨.null, []⟩ (Run.exportGroups groups (withCards && takesCards))
  return document

def exportFile (path : Text) (withCards : Bool) (options : ExchangeOptions) :
    Task Host ExportDocument := do
  let policy ← policy options.policy
  let document ← withUnit options.directoryIntegration policy (exportRegistry withCards)
  writeDocument document (Path.read path)
  return document

def createUser (user : NewUser) : Task Host Unit := do
  let policy ← policy none
  withUnit none policy do
    if (← Task.call (Session.userBy user.id)).isSome then throw (.userExists user.id)
    Task.call (Session.addUser user)
    Task.call Session.commit
  Task.tell (.userStored user.id.display)

end Host

end ParticipantRegistry
