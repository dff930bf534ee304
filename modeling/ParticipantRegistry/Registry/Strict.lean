import ParticipantRegistry.Registry.Basic

/-!
# Registries without substitutes

Where there is no default owner, an element whose owner is unknown cannot be read on. `Strict`
content answers like the content inside, but a user that it does not know is a fault.
-/

namespace ParticipantRegistry

structure Strict (σ : Type) where
  content : σ

namespace Strict

variable {σ α : Type}

def inside (call : Call σ α) : Call (Strict σ) α := fun s =>
  match call s.content with
  | (answer, content) => (answer, ⟨content⟩)

def knownUser [Registry σ] (id : Text) : Call σ (Option User) := do
  match ← Registry.lookupUser id with
  | some user => return some user
  | none => throw (.fault .noDefaultOwner)

instance [Registry σ] : Registry (Strict σ) where
  lookupUser id := inside (knownUser id)
  groupExists participantId := inside (Registry.groupExists participantId)
  deleteGroup participantId deprovision := inside (Registry.deleteGroup participantId deprovision)
  createGroup group register := inside (Registry.createGroup group register)
  mergeEndpoint endpoint := inside (Registry.mergeEndpoint endpoint)
  upsertRedirect redirect := inside (Registry.upsertRedirect redirect)
  businessCard? participantId := inside (Registry.businessCard? participantId)
  deleteBusinessCard card := inside (Registry.deleteBusinessCard card)
  upsertBusinessCard card := inside (Registry.upsertBusinessCard card)
  directoryIntegration s := Registry.directoryIntegration s.content
  serviceGroups := inside Registry.serviceGroups
  endpoints participantId := inside (Registry.endpoints participantId)
  redirects participantId := inside (Registry.redirects participantId)
  serviceGroupKeys := inside Registry.serviceGroupKeys
  businessCardKeys := inside Registry.businessCardKeys

end Strict

end ParticipantRegistry
