import ParticipantRegistry.Document.Payload
import ParticipantRegistry.Exchange.Run

/-!
# Exporting groups

An export lists groups by participant, each with its endpoints and redirects in order, and after them
the business cards of the groups that have one. A lookup that fails is told in the journal and
counts as empty.
-/

namespace ParticipantRegistry

namespace Run

variable {σ : Type}

/-- Looks something up for a group; `fallback` stands in when the lookup fails. -/
def lookup {α : Type} (what : Lookup) (participantId : Text) (fallback : α) (c : Call σ α) :
    Run σ α := do
  match ← attempt c with
  | .ok a => return a
  | .error e =>
    emit (.lookupFailed what participantId e)
    return fallback

variable [Registry σ]

def exportGroup (group : ServiceGroup) : Run σ ExportedGroup := do
  let participantId := group.participantId
  let endpoints ← lookup .endpoints participantId [] (Registry.endpoints participantId)
  let redirects ← lookup .redirects participantId [] (Registry.redirects participantId)
  return ⟨group, endpoints.mergeSort Endpoint.le, redirects.mergeSort Redirect.le⟩

def exportCard (group : ServiceGroup) : Run σ (Option BusinessCard) :=
  lookup .businessCard group.participantId none (Registry.businessCard? group.participantId)

def exportGroups (groups : List ServiceGroup) (withCards : Bool) : Run σ ExportDocument := do
  let groups := groups.mergeSort ServiceGroup.le
  emit (.exportStarted groups.length withCards)
  let serviceGroups ← groups.mapM exportGroup
  let cards ← if withCards then groups.mapM exportCard else pure []
  emit .exportFinished
  return ⟨serviceGroups, cards.filterMap id⟩

end Run

def exportFrom {σ : Type} [Registry σ] (groups : Option (List ServiceGroup)) (withCards : Bool)
    (registry : Option σ) :
    Except PreconditionError (Except CallError ExportDocument × Progress σ) := do
  let groups ← require groups "groups"
  let registry ← require registry "registry"
  return Run.exportGroups groups withCards { registry }

end ParticipantRegistry
